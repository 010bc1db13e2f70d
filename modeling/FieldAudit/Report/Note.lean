import FieldAudit.Finding

/-!
# The table of missing fields

Each missing field stands in a row of its own: a field of the source on the left of an arrow, a field
of the destination on the right. The arrows of all rows stand below each other. When only one side
has missing fields and many of them, a single row stands for all.
-/

namespace FieldAudit.Report

/-- A row of the table. -/
structure Row where
  left : String
  /-- The number of blanks before the arrow. -/
  gap : Nat
  right : String
deriving DecidableEq, Inhabited

/-- A text of blanks. -/
def blanks (n : Nat) : String := .ofList (List.replicate n ' ')

/-- The column of the arrow. -/
def Row.arrow (r : Row) : Nat := 2 + r.left.length + r.gap

/-- The text of a row. -/
def Row.render (r : Row) : String := "  " ++ r.left ++ blanks r.gap ++ "→ " ++ r.right

/-- What stands for the field that is missing. -/
def unknown : String := "??"

/-- More missing fields than this on one side alone make a single row. -/
def collapseThreshold : Nat := 5

/-- The length of the longest name, at least one. -/
def width (names : List String) : Nat := (names.map String.length).foldl max 1

/-- The rows for the missing fields of the source and the destination. -/
def rows (source dest : List String) : List Row :=
  if source.isEmpty && dest.length > collapseThreshold then [⟨unknown, 2, "all output fields"⟩]
  else if dest.isEmpty && source.length > collapseThreshold then [⟨"all input fields", 1, unknown⟩]
  else
    let w := width (source ++ dest)
    source.map (fun field => ⟨field, w - field.length + 1, unknown⟩)
      ++ dest.map (fun field => ⟨unknown, w - unknown.length + 1, field⟩)

/-- The title of the table. -/
def title : String := "= note: missing fields:"

/-- The lines of the table. -/
def noteLines (source dest : List String) : List String := title :: (rows source dest).map Row.render

end FieldAudit.Report
