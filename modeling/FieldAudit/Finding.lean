import FieldAudit.Converter.Verdict

/-!
# Findings

An incomplete converter with its place, and what a run over some files finds. Outcomes of parts are
merged by appending, and put in order at the end.
-/

namespace FieldAudit

/-- An incomplete converter. -/
structure Finding where
  /-- The path of the file below the root. -/
  file : String
  /-- Lines and columns count from one, columns in bytes. -/
  line : Nat
  column : Nat
  /-- The name of the function, after that of its receiver. -/
  function : String
  verdict : Verdict
deriving Inhabited

namespace Finding

/-- What is wrong, without the place. -/
def message (f : Finding) : String :=
  let missing := f.verdict.missing
  f.function ++ ": incomplete converter" ++
    if missing.isEmpty then "" else " with missing fields: " ++ ", ".intercalate missing

/-- The place of a finding. -/
def place (f : Finding) : String := f.file ++ ":" ++ toString f.line ++ ":" ++ toString f.column

/-- The place, and what is wrong there. -/
def describe (f : Finding) : String := f.place ++ ": " ++ f.message

/-- The order of findings: by file, then line, then function. -/
def le (a b : Finding) : Bool :=
  decide (a.file < b.file) || (a.file == b.file &&
    (decide (a.line < b.line) || (a.line == b.line && !decide (b.function < a.function))))

end Finding

/-- A finding that a directive silences. -/
structure Suppressed where
  finding : Finding
  reason : String := ""
deriving Inhabited

/-- What a run finds. -/
structure Outcome where
  findings : List Finding := []
  suppressed : List Suppressed := []
  /-- The number of files that were looked at. -/
  scanned : Nat := 0
  /-- The number of functions that are converters. -/
  converters : Nat := 0
deriving Inhabited

namespace Outcome

/-- One outcome after another. -/
def merge (a b : Outcome) : Outcome :=
  { findings := a.findings ++ b.findings
    suppressed := a.suppressed ++ b.suppressed
    scanned := a.scanned + b.scanned
    converters := a.converters + b.converters }

/-- The outcome with one more finding. -/
def add (o : Outcome) (f : Finding) : Outcome := { o with findings := o.findings ++ [f] }

/-- The outcome with one more silenced finding. -/
def suppress (o : Outcome) (s : Suppressed) : Outcome := { o with suppressed := o.suppressed ++ [s] }

/-- The outcome with its findings in order. Findings that the order does not tell apart stay as they
    are. -/
def sort (o : Outcome) : Outcome :=
  { o with
    findings := o.findings.mergeSort Finding.le
    suppressed := o.suppressed.mergeSort fun a b => a.finding.le b.finding }

end Outcome

end FieldAudit
