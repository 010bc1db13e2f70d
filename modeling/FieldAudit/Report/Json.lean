import FieldAudit.Finding

/-!
# Reports as data

A report as a JSON document, indented by two blanks. Every value stands on a line of its own; empty
lists and objects take no lines.
-/

namespace FieldAudit.Report

/-- A JSON value. -/
inductive Json where
  | bool (b : Bool)
  | num (n : Nat)
  | str (s : String)
  | arr (items : List Json)
  | obj (fields : List (String × Json))

namespace Json

/-- A control character by its code point, in four hexadecimal digits. -/
def controlEscape (c : Char) : List Char :=
  let digits := Nat.toDigits 16 c.toNat
  ['\\', 'u'] ++ List.replicate (4 - digits.length) '0' ++ digits

/-- A character as it stands inside of a string. -/
def escape (c : Char) : List Char :=
  match c with
  | '"' => ['\\', '"']
  | '\\' => ['\\', '\\']
  | '\n' => ['\\', 'n']
  | '\r' => ['\\', 'r']
  | '\t' => ['\\', 't']
  | '\x08' => ['\\', 'b']
  | '\x0c' => ['\\', 'f']
  | c => if c.toNat < 0x20 then controlEscape c else [c]

/-- A string between quotes. -/
def quote (s : String) : String := .ofList ('"' :: s.toList.flatMap escape ++ ['"'])

/-- The beginning of a line at a depth. -/
def indent (depth : Nat) : String := .ofList (List.replicate (2 * depth) ' ')

/-- Items between brackets, each on a line of its own. -/
def bracketed (opening closing : String) (depth : Nat) (items : List String) : String :=
  if items.isEmpty then opening ++ closing
  else opening ++ "\n" ++ ",\n".intercalate (items.map (indent (depth + 1) ++ ·)) ++ "\n"
    ++ indent depth ++ closing

mutual

/-- The text of a value at a depth. -/
def renderAt (depth : Nat) : Json → String
  | bool b => if b then "true" else "false"
  | num n => toString n
  | str s => quote s
  | arr items => bracketed "[" "]" depth (renderItems (depth + 1) items)
  | obj fields => bracketed "\x7b" "\x7d" depth (renderFields (depth + 1) fields)

/-- The texts of the items of a list. -/
def renderItems (depth : Nat) : List Json → List String
  | [] => []
  | item :: rest => renderAt depth item :: renderItems depth rest

/-- The texts of the fields of an object. -/
def renderFields (depth : Nat) : List (String × Json) → List String
  | [] => []
  | (key, value) :: rest => (quote key ++ ": " ++ renderAt depth value) :: renderFields depth rest

end

/-- The text of a document. -/
def render (j : Json) : String := j.renderAt 0

end Json

/-- A list of names. -/
def namesJson (names : List String) : Json := .arr (names.map .str)

/-- The fields of a verdict. -/
def verdictFields (v : Verdict) : List (String × Json) :=
  [("valid", .bool v.valid), ("converter_kind", .str v.kind.label)]
    ++ (if v.delegating then [("delegating", .bool true)] else [])
    ++ [("missing_source_fields", namesJson v.missingSource),
        ("missing_destination_fields", namesJson v.missingDest)]

/-- A finding as an object. -/
def findingJson (f : Finding) : Json := .obj
  ([("file", .str f.file), ("line", .num f.line), ("column", .num f.column),
    ("function", .str f.function)] ++ verdictFields f.verdict)

/-- A silenced finding as an object; an empty reason is left out. -/
def suppressedJson (s : Suppressed) : Json := .obj
  (("finding", findingJson s.finding) ::
    if s.reason.isEmpty then [] else [("reason", .str s.reason)])

/-- The version that reports state. -/
def version : String := "0.1.0"

/-- The report on the outcome for a path. -/
def reportJson (path : String) (o : Outcome) : Json := .obj
  ([("version", .str version), ("path", .str path), ("files_scanned", .num o.scanned),
    ("converters_checked", .num o.converters), ("findings", .arr (o.findings.map findingJson))]
    ++ (if o.suppressed.isEmpty then [] else
      [("suppressed", .arr (o.suppressed.map suppressedJson))])
    ++ [("suppressed_count", .num o.suppressed.length)])

/-- The text of the report as data. -/
def json (path : String) (o : Outcome) : String := (reportJson path o).render ++ "\n"

/-- The report of a line for each finding. -/
def lines (o : Outcome) : String := String.join (o.findings.map fun f => f.describe ++ "\n")

end FieldAudit.Report
