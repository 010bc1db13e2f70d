import FieldAudit.Text.Case
import FieldAudit.Text.Quoted

/-!
# Settings

What a run is asked to do: which functions and files it looks at, which fields it exempts and how it
reports.
-/

namespace FieldAudit

/-- How fields of function, channel and raw pointer type are treated. -/
inductive NonSerializable where
  /-- They are never reported. -/
  | ignore
  /-- They are reported if both sides declare them. -/
  | adaptive
  /-- They are reported like any other field. -/
  | strict
deriving DecidableEq, Inhabited

namespace NonSerializable

/-- The word for a treatment. -/
def name : NonSerializable → String
  | ignore => "ignore"
  | adaptive => "adaptive"
  | strict => "strict"

/-- All treatments. -/
def all : List NonSerializable := [ignore, adaptive, strict]

/-- The treatment of a word. -/
def ofName? (word : String) : Option NonSerializable := all.find? (·.name = word)

end NonSerializable

/-- How findings are reported. -/
inductive Format where
  /-- A line for each finding. -/
  | lines
  /-- Excerpts and tables for a terminal. -/
  | pretty
  | json
deriving DecidableEq, Inhabited

namespace Format

/-- The word for a format. -/
def name : Format → String
  | lines => "default"
  | pretty => "pretty"
  | json => "json"

/-- All formats. -/
def all : List Format := [lines, pretty, json]

/-- The format of a word. -/
def ofName? (word : String) : Option Format := all.find? (·.name = word)

end Format

/-- A word in lower case. -/
def lowerWord (word : String) : String := .ofList (Text.lower word.toList)

/-- The treatment of a word in any case, or what is wrong with the word. -/
def NonSerializable.parse (word : String) : Except String NonSerializable :=
  match ofName? (lowerWord word) with
  | some treatment => .ok treatment
  | none => .error ("unknown non-serializable handling " ++ Text.quoted word
      ++ ", must be 'ignore', 'adaptive', or 'strict'")

/-- The format of a word in any case, or what is wrong with the word. -/
def Format.parse (word : String) : Except String Format :=
  match ofName? (lowerWord word) with
  | some format => .ok format
  | none => .error ("invalid format " ++ Text.quoted word
      ++ ", must be 'default', 'pretty', or 'json'")

/-- The settings of a run. -/
structure Settings where
  /-- Methods are checked as well as functions. -/
  includeMemberFunctions : Bool := true
  /-- A call `GetField()` on the source counts as a read of `Field`. -/
  allowGetterFallback : Bool := true
  /-- Converters from a sequence to a single struct are checked. -/
  allowAggregating : Bool := false
  excludeFields : List String := []
  excludeConverters : List String := []
  excludeFiles : List String := []
  /-- Names of at least this similarity match; `0` asks for more than similarity. -/
  minSimilarity : Float := 0
  /-- Tag entries `key:"value"`, or keys alone, of fields that are exempt. -/
  ignoreTags : List String := []
  includeGenerated : Bool := false
  ignoreDeprecated : Bool := false
  includePrivate : Bool := false
  nonSerializable : NonSerializable := .adaptive
  format : Format := .lines
deriving Inhabited

end FieldAudit
