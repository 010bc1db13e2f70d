import FieldAudit.Text.Blank

/-!
# Routes

A path as a list of steps through directories.
-/

namespace FieldAudit.Files

/-- A step of a path. -/
inductive Step where
  /-- Stays, as `.` and a doubled or final slash do. -/
  | here
  /-- Leaves the directory, as `..` does. -/
  | up
  | down (name : String)
deriving DecidableEq, Inhabited

/-- A path from some directory. -/
abbrev Route := List Step

namespace Route

/-- The step of a segment between slashes. -/
def step (segment : List Char) : Step :=
  match segment with
  | [] | ['.'] => .here
  | ['.', '.'] => .up
  | name => .down (.ofList name)

/-- The path of a text. -/
def ofString (text : String) : Route := (Text.splitAt '/' text.toList).map step

/-- The path without the steps that stay. -/
def moves (p : Route) : Route := p.filter (· != .here)

/-- The text of a step. -/
def stepText : Step → String
  | .here => "."
  | .up => ".."
  | .down name => name

/-- The text of a path, without the steps that stay. -/
def toText (p : Route) : String := "/".intercalate (p.moves.map stepText)

/-- The path to the directory that holds the last step. -/
def parent (p : Route) : Route := p.moves.dropLast

/-- The name of what a path leads to, if its last step names it. -/
def fileName? (p : Route) : Option String :=
  match p.moves.getLast? with
  | some (.down name) => some name
  | _ => none

/-- What follows the last dot in the name of a file, if something stands before that dot. -/
def extension? (p : Route) : Option String :=
  p.fileName?.bind fun name =>
    let (after, before) := name.toList.reverse.span (· != '.')
    if before.length ≤ 1 then none else some (.ofList after.reverse)

/-- Whether a step comes before another one, or is the same: steps that leave a directory come first,
    then names in the order of their characters. -/
def stepLe : Step → Step → Bool
  | .here, _ => true
  | .up, .here => false
  | .up, _ => true
  | .down a, .down b => !decide (b < a)
  | .down _, _ => false

/-- The order of paths, by their steps. -/
def le : Route → Route → Bool
  | [], _ => true
  | _ :: _, [] => false
  | a :: as, b :: bs => if a = b then le as bs else stepLe a b

end Route

end FieldAudit.Files
