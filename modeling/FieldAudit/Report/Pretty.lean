import FieldAudit.Report.Note
import FieldAudit.Report.Style
import FieldAudit.Text.Quoted

/-!
# Reports for a terminal

Each finding with the line of the source where the function is named, a mark below its name and the
table of missing fields, then the silenced findings and a summary.
-/

namespace FieldAudit.Report

/-- The line cut to a number of characters, with a sign that it was cut. -/
def shorten (line : String) (width : Nat) : String :=
  if line.length ≤ width then line else .ofList (line.toList.take (width - 1)) ++ "…"

/-- The number of characters that make up a number of bytes, if no character is cut. -/
def charsWithin : List Char → Nat → Option Nat
  | _, 0 => some 0
  | [], _ + 1 => none
  | c :: cs, n + 1 =>
    if c.utf8Size ≤ n + 1 then (charsWithin cs (n + 1 - c.utf8Size)).map (· + 1) else none

/-- The number of characters before a column in bytes. Inside of a character bytes are counted. -/
def caretOffset (line : String) (column : Nat) : Nat :=
  let byte := min (column - 1) line.utf8ByteSize
  (charsWithin line.toList byte).getD byte

/-- The greatest width of a line of source. -/
def maxLineWidth : Nat := 120

/-- What stands for a line of source that cannot be shown. -/
def unavailable : String := "<source unavailable>"

/-- The last part of a qualified name. -/
def lastName (function : String) : String :=
  .ofList (function.toList.reverse.takeWhile (· != '.')).reverse

section

variable (color : Bool)

/-- The line of source of a finding with the mark below it. -/
def excerpt (f : Finding) (source : Option String) : List String :=
  let source := (source.filter (· != "")).getD unavailable
  let short := shorten source maxLineWidth
  let caret := min (caretOffset source f.column) short.length
  let lineNumber := toString f.line
  let bar := blanks lineNumber.length ++ " " ++ Style.blue.paint color "|"
  let mark := String.ofList (List.replicate (lastName f.function).length '^')
  [bar,
   Style.blue.paint color lineNumber ++ Style.blue.paint color " |" ++ "  " ++ blanks 4 ++ short,
   bar ++ "  " ++ blanks (caret + 4) ++ Style.yellow.paint color mark
     ++ Style.yellow.paint color (" detected as " ++ f.verdict.kind.label),
   bar]

/-- The table of missing fields below an excerpt. -/
def note (f : Finding) : List String :=
  let gutter := blanks (toString f.line).length ++ " "
  (gutter ++ Style.blue.paint color "=" ++ Style.red.paint color (.ofList (title.toList.drop 1))) ::
    (rows f.verdict.missingSource f.verdict.missingDest).map fun row =>
      gutter ++ Style.red.paint color row.render

/-- A finding with its excerpt and table. -/
def prettyFinding (f : Finding) (source : Option String) : List String :=
  (Style.bold.paint color f.place ++ ": " ++ Style.bold.paint color f.message)
    :: excerpt color f source ++ note color f ++ [""]

/-- A silenced finding. -/
def prettySuppressed (s : Suppressed) : List String :=
  ("  " ++ Style.blue.paint color s.finding.file
      ++ Style.dimmed.paint color (":" ++ toString s.finding.line) ++ " " ++ s.finding.function) ::
    if s.reason.isEmpty then []
    else ["      " ++ Style.dimmed.paint color ("reason: " ++ Text.quoted s.reason)]

/-- The silenced findings, or only their number. -/
def suppressedSummary (details : Bool) (suppressed : List Suppressed) : List String :=
  if suppressed.isEmpty then []
  else (Style.dimmed.paint color "Suppressed" ++ " (" ++ toString suppressed.length ++ "):") ::
    (if details then suppressed.flatMap (prettySuppressed color)
     else ["  " ++ Style.dimmed.paint color "(use --show-suppressed to see details)"]) ++ [""]

/-- The last line of a report. -/
def status (o : Outcome) : String :=
  let summary := toString o.scanned ++ " files scanned, " ++ toString o.converters
    ++ " converters checked"
  let count := o.findings.length
  let verdict :=
    if count = 0 then Style.green.paint color "✓ all converters complete"
    else Style.red.paint color ("✗ " ++ toString count ++ " incomplete converter"
      ++ if count = 1 then "" else "s")
  verdict ++ "  " ++ Style.dimmed.paint color summary

/-- The report for a terminal. `source` gives a line of a file, if it can be shown. -/
def pretty (details : Bool) (source : String → Nat → Option String) (o : Outcome) : String :=
  String.join <| List.map (· ++ "\n") <|
    o.findings.flatMap (fun f => prettyFinding color f (source f.file f.line))
      ++ suppressedSummary color details o.suppressed ++ [status color o]

end

end FieldAudit.Report
