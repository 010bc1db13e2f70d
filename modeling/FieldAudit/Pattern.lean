import FieldAudit.Glob.Parser
import FieldAudit.Text.Blank

/-!
# Exclusion patterns

Patterns for the names of files, converters and fields. A pattern without a slash is a glob for the
last component of a name, one with a slash is a glob for the whole name, and `*/segment/*` asks for
the segment at any depth.
-/

namespace FieldAudit

/-- An exclusion pattern. -/
inductive Pattern where
  /-- The name contains this text. -/
  | contains (text : List Char)
  /-- The whole name matches. -/
  | path (glob : Glob)
  /-- The last component of the name matches. -/
  | base (glob : Glob)

/-- A text that is not a pattern, and why. -/
structure PatternError where
  text : String
  cause : Glob.Error

/-- The description of a pattern error. -/
def PatternError.message (e : PatternError) : String :=
  "error parsing glob '" ++ e.text ++ "': " ++ e.cause.message

namespace Pattern

/-- The text `/segment/` of a pattern `*/segment/*`. -/
def segment? (text : List Char) : Option (List Char) :=
  if text.length > 3 && Text.startsWith text ['*', '/'] && Text.endsWith text ['/', '*'] then
    some (text.drop 1).dropLast
  else none

/-- Reads a pattern. -/
def parse (text : String) : Except PatternError Pattern :=
  match segment? text.toList with
  | some segment => .ok (.contains segment)
  | none => match Glob.parse text with
    | .ok glob => .ok (if text.toList.contains '/' then .path glob else .base glob)
    | .error cause => .error { text, cause }

/-- The last component of a path. -/
def baseName (path : List Char) : List Char := (path.reverse.takeWhile (· != '/')).reverse

/-- The bytes of a text. -/
def bytes (s : List Char) : List UInt8 := (String.ofList s).toUTF8.toList

/-- Whether a name matches a pattern. The empty name matches none, and a backslash in a name counts
    as a slash. -/
def isMatch (p : Pattern) (name : String) : Bool :=
  let name := name.toList.map fun c => if c = '\\' then '/' else c
  !name.isEmpty && match p with
    | contains text => Text.occursIn text name
    | path glob => glob.isMatch (bytes name)
    | base glob => glob.isMatch (bytes (baseName name))

/-- The valid patterns of a list; texts that are not patterns are left out. -/
def validOnes (texts : List String) : List Pattern := texts.filterMap fun t => (parse t).toOption

/-- Whether a name matches one of the valid patterns of a list. -/
def matchesAny (texts : List String) (name : String) : Bool :=
  (validOnes texts).any (·.isMatch name)

end Pattern

end FieldAudit
