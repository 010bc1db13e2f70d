import FieldAudit.Decimal.Shortest
import FieldAudit.Pattern
import FieldAudit.Settings.Basic

/-!
# Valid settings

What settings have to satisfy before a run, and what is said of those that do not.
-/

namespace FieldAudit

/-- What is wrong with settings. -/
inductive SettingsError where
  | similarity (got : Float)
  /-- A text under a key that is not a pattern. -/
  | pattern (key : String) (cause : PatternError)
  | emptyTag

/-- The description of what is wrong. -/
def SettingsError.message : SettingsError → String
  | similarity got =>
    "min_name_similarity must be between 0.0 and 1.0, got " ++ Decimal.shortest got
  | pattern key cause =>
    "invalid " ++ key ++ " pattern " ++ Text.quoted cause.text ++ ": " ++ cause.message
  | emptyTag => "ignore_field_tags must not contain empty entries"

namespace Settings

/-- The first text of a list that is not a pattern. -/
def badPattern? (key : String) (texts : List String) : Option SettingsError :=
  texts.findSome? fun text => match Pattern.parse text with
    | .ok _ => none
    | .error cause => some (.pattern key cause)

/-- The first thing that is wrong with settings: the similarity is checked first, then patterns, then
    tags. -/
def error? (s : Settings) : Option SettingsError :=
  if !(0.0 ≤ s.minSimilarity && s.minSimilarity ≤ 1.0) then some (.similarity s.minSimilarity)
  else (badPattern? "exclude_field_patterns" s.excludeFields).orElse fun _ =>
    (badPattern? "exclude_converter_patterns" s.excludeConverters).orElse fun _ =>
    (badPattern? "exclude_file_patterns" s.excludeFiles).orElse fun _ =>
    if s.ignoreTags.any fun tag => tag.toList.all Text.isBlank then some .emptyTag else none

end Settings

end FieldAudit
