import FieldAudit.Types.Basic

/-!
# Candidates

A type is a candidate for conversion if it is a named struct, a pointer to one, or a sequence or map
of either. The fields of embedded structs count as fields of the struct around them.
-/

namespace FieldAudit

/-- What surrounds the struct of a candidate. -/
inductive Shape where
  /-- Nothing: the bare struct. -/
  | value
  | pointer
  /-- A slice or an array. -/
  | sequence
  /-- A map with such values. -/
  | mapping
deriving DecidableEq, Inhabited

namespace Shape

/-- Whether there is one struct only. -/
def isSingle : Shape → Bool
  | value | pointer => true
  | sequence | mapping => false

/-- The word for a shape in reports. -/
def name : Shape → String
  | value => "value"
  | pointer => "pointer"
  | sequence => "slice"
  | mapping => "map"

end Shape

/-- A field as the audit sees it. -/
structure FieldInfo where
  name : String
  exported : Bool
  tags : NameSet := ∅
  deprecated : Bool := false
  type : Ty
  /-- The outermost embedded field through which this one is reached. -/
  promotedFrom : Option String := none
deriving Inhabited

/-- A struct that may be converted. -/
structure Candidate where
  /-- The name of the type, without its package. -/
  name : String
  shape : Shape
  fields : List FieldInfo
  /-- The type once aliases are followed. -/
  identity : TypeKey
deriving Inhabited

/-- Whether a candidate has a field of this name. -/
def Candidate.hasField (c : Candidate) (name : String) : Bool := c.fields.any (·.name == name)

namespace TypeTable

/-- The fields of a struct that is embedded directly or by pointer. -/
def embeddedFields? (t : TypeTable) : Ty → Option (List (FieldDef Ty))
  | .named key => t.structFields? key
  | .pointer (.named key) => t.structFields? key
  | _ => none

/-- How deep embedded structs are followed. -/
def maxEmbedding : Nat := 4

/-- The fields with those of embedded structs in their place, followed down to `depth` levels. -/
def flatten (t : TypeTable) (depth : Nat) (origin : Option String)
    (fields : List (FieldDef Ty)) : List FieldInfo :=
  fields.flatMap fun field =>
    let leaf : FieldInfo :=
      { name := field.name, exported := field.exported, tags := field.tags
        deprecated := field.deprecated, type := field.type, promotedFrom := origin }
    match depth with
    | 0 => [leaf]
    | depth + 1 =>
      match if field.embedded then t.embeddedFields? field.type else none with
      | some inner => t.flatten depth (some (origin.getD field.name)) inner
      | none => [leaf]

/-- The container of a type and what it holds. -/
def unwrapContainer : Ty → Shape × Ty
  | .slice of => (.sequence, of)
  | .array of => (.sequence, of)
  | .map _ value => (.mapping, value)
  | type => (.value, type)

/-- The shape of a type and the type inside: at most one container, then at most one pointer. -/
def unwrap (type : Ty) : Shape × Ty :=
  match unwrapContainer type with
  | (.value, .pointer of) => (.pointer, of)
  | (shape, .pointer of) => (shape, of)
  | unwrapped => unwrapped

/-- The candidate that a type is, if any. -/
def candidate? (t : TypeTable) (type : Ty) : Option Candidate :=
  match unwrap type with
  | (shape, .named key) => (t.structFields? key).map fun fields =>
    { name := key.name, shape, fields := t.flatten maxEmbedding none fields
      identity := t.identity key }
  | _ => none

end TypeTable

end FieldAudit
