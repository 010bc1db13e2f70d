import FieldAudit.Converter.Candidate
import FieldAudit.Pattern
import FieldAudit.Settings.Basic
import FieldAudit.Similarity
import FieldAudit.Usage.Basic

/-!
# Missing fields

The fields of a struct are reconciled with the usage of its value. A field is missing if it is not
exempt and nothing shows that it was handled; a field that was handled in part is looked into.
-/

namespace FieldAudit

/-- The end of a conversion to which fields belong. -/
inductive Side where
  /-- Fields must be read. -/
  | source
  /-- Fields must be set. -/
  | destination
deriving DecidableEq, Inhabited

namespace FieldInfo

/-- Whether an entry of the settings exempts the tags of a field: an entry with a colon names a whole
    tag entry, one without names a key. -/
def hasTag (field : FieldInfo) (entry : String) : Bool :=
  if entry.toList.contains ':' then decide (entry ∈ field.tags)
  else field.tags.toList.any fun tag => Text.startsWith tag.toList (entry.toList ++ [':'])

/-- Whether a field of a type that cannot be serialised is exempt. -/
def exemptByType (settings : Settings) (counterpart : List FieldInfo) (field : FieldInfo) : Bool :=
  field.type.isNonSerializable && match settings.nonSerializable with
    | .ignore => true
    | .adaptive => !counterpart.any (·.name == field.name)
    | .strict => false

/-- Whether a field needs no handling. -/
def isExempt (settings : Settings) (counterpart : List FieldInfo) (field : FieldInfo) : Bool :=
  (!field.exported && !settings.includePrivate)
    || settings.ignoreTags.any field.hasTag
    || Pattern.matchesAny settings.excludeFields field.name
    || (field.deprecated && settings.ignoreDeprecated)
    || field.exemptByType settings counterpart

/-- Whether a promoted field is handled through the embedded struct. -/
def handledByEmbedding (field : FieldInfo) (usage : Usage) : Bool :=
  (field.promotedFrom.bind usage.field?).any fun embedded =>
    embedded.isWhole || embedded.hasField field.name

/-- Whether a getter of the field is called on the source. -/
def handledByGetter (settings : Settings) (field : FieldInfo) (usage : Usage) (side : Side) : Bool :=
  side == .source && settings.allowGetterFallback && decide (("Get" ++ field.name) ∈ usage.methods)

/-- Whether a field of a similar name is used. -/
def handledBySimilarity (settings : Settings) (field : FieldInfo) (usage : Usage) : Bool :=
  settings.minSimilarity > 0
    && usage.fieldNames.toList.any fun used => similarity used field.name > settings.minSimilarity

/-- Whether the usage shows that a field was handled. -/
def isHandled (settings : Settings) (field : FieldInfo) (usage : Usage) (side : Side) : Bool :=
  usage.hasField field.name
    || field.handledByEmbedding usage
    || field.handledByGetter settings usage side
    || field.handledBySimilarity settings usage

end FieldInfo

/-- The fields of the single struct that a type is, if it is one. -/
def TypeTable.singleFields? (table : TypeTable) (type : Ty) : Option (List FieldInfo) :=
  ((table.candidate? type).filter (·.shape.isSingle)).map (·.fields)

/-- The fields of the struct in the field of this name, none if there is no such struct. -/
def TypeTable.fieldsBelow (table : TypeTable) (fields : List FieldInfo) (name : String) :
    List FieldInfo :=
  ((fields.find? (·.name == name)).bind fun f => table.singleFields? f.type).getD []

/-- The usage of a field that is used in part: below it, but not as a unit. -/
def Usage.partOf? (usage : Usage) (name : String) : Option Usage :=
  (usage.field? name).filter fun node => !node.isWhole && !node.fieldNames.isEmpty

/-- Going down to a field that is used in part shortens the recorded paths. -/
theorem Usage.depth_lt_of_partOf? {usage node : Usage} {name : String}
    (h : usage.partOf? name = some node) : node.depth < usage.depth :=
  Usage.depth_field?_lt (Option.filter_eq_some_iff.1 h).1

/-- The paths of the missing fields in the order of declaration. A field that is used in part and is
    a struct is looked into, and what is missing in it is reported below its name. -/
def missingFields (settings : Settings) (table : TypeTable) (side : Side) (usage : Usage)
    (fields counterpart : List FieldInfo) : List String :=
  fields.flatMap fun field =>
    if field.isExempt settings counterpart then []
    else if !field.isHandled settings usage side then [field.name]
    else match _h : usage.partOf? field.name with
      | none => []
      | some node => match table.singleFields? field.type with
        | none => []
        | some inner =>
          (missingFields settings table side node inner
            (table.fieldsBelow counterpart field.name)).map fun path => field.name ++ "." ++ path
termination_by usage.depth
decreasing_by exact Usage.depth_lt_of_partOf? _h

end FieldAudit
