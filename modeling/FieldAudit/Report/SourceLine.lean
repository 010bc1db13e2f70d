import FieldAudit.Files.Tree

/-!
# Lines of source

The line that a report shows for a finding.
-/

namespace FieldAudit.Report

open Files

/-- A line of a file below a root, counted from one. A root that is itself a file stands for every
    file. -/
def sourceLine (top : Entry) (root : Route) (file : String) (line : Nat) : Option String :=
  let path := if top.isFile root then root else root ++ .ofString file
  (top.readText path).toOption.bind fun text =>
    if line = 0 then none else ((Text.lines text)[line - 1]?).map String.ofList

end FieldAudit.Report
