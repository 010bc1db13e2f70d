import FieldAudit.OrderedSet
import FieldAudit.Text.Case

/-!
# Types

Types after their names have been looked up. A named type is identified by the directory of its
package and its name; what it stands for is kept in a table.
-/

namespace FieldAudit

/-- The identity of a named type. -/
structure TypeKey where
  /-- The package directory below the audited root, or the import path of a package outside it. -/
  package : String
  name : String
deriving DecidableEq, Inhabited

/-- `package.name`, or the name alone in the root package. -/
def TypeKey.display (k : TypeKey) : String :=
  if k.package = "" then k.name else k.package ++ "." ++ k.name

/-- A declared struct field, over a notion `τ` of type. -/
structure FieldDef (τ : Type) where
  name : String
  exported : Bool
  embedded : Bool := false
  /-- The entries `key:"value"` of the tag. -/
  tags : NameSet := ∅
  deprecated : Bool := false
  type : τ
deriving Inhabited

/-- A type whose names have been looked up. -/
inductive Ty where
  | named (key : TypeKey)
  /-- A predeclared type such as `string`. -/
  | basic (name : String)
  | pointer (of : Ty)
  | slice (of : Ty)
  | array (of : Ty)
  | map (key value : Ty)
  | chan (of : Ty)
  | func
  | interface
  | unsafePointer
  | struct (fields : List (FieldDef Ty))
  | unresolved

namespace Ty

instance : Inhabited Ty := ⟨.unresolved⟩

/-- Whether values of the type cannot leave the program: functions, channels and raw pointers. -/
def isNonSerializable : Ty → Bool
  | func | chan _ | unsafePointer => true
  | _ => false

end Ty

/-- Whether a name is visible outside of its package: it starts with an upper-case letter. -/
def isExported (name : String) : Bool := name.toList.head?.any Text.isUpper

/-- What a named type is declared as. -/
inductive Definition where
  | struct (fields : List (FieldDef Ty))
  /-- Another type that is not written as a struct. -/
  | type (of : Ty)
deriving Inhabited

/-- A named type. -/
structure NamedType where
  key : TypeKey
  /-- Another name for its definition rather than a type of its own. -/
  isAlias : Bool := false
  definition : Definition
deriving Inhabited

/-- The named types of a program, each key at most once. -/
structure TypeTable where
  types : List NamedType := []
deriving Inhabited

namespace TypeTable

/-- Adds a type; an earlier one of the same key is replaced. -/
def insert (t : TypeTable) (named : NamedType) : TypeTable :=
  ⟨named :: t.types.filter (·.key ≠ named.key)⟩

/-- The type of this key. -/
def get? (t : TypeTable) (key : TypeKey) : Option NamedType := t.types.find? (·.key = key)

/-- An inserted type is found under its key, and every other key leads where it did before. -/
@[simp] theorem get?_insert (t : TypeTable) (named : NamedType) (key : TypeKey) :
    (t.insert named).get? key = if named.key = key then some named else t.get? key := by
  by_cases h : named.key = key
  · simp [get?, insert, h]
  · simp only [get?, insert, h, if_false, List.find?_cons, decide_false, List.find?_filter]
    apply congrArg (List.find? · t.types)
    funext x
    by_cases hx : x.key = key
    · simp [hx, Ne.symm h]
    · simp [hx]

/-- After a list of types is added, the last one of a key counts. -/
theorem get?_foldl_insert (types : List NamedType) (t : TypeTable) (key : TypeKey) :
    (types.foldl insert t).get? key = (types.reverse.find? (·.key = key)).or (t.get? key) := by
  induction types generalizing t with
  | nil => simp
  | cons named types ih =>
    rw [List.foldl_cons, ih, List.reverse_cons, List.find?_append, Option.or_assoc, get?_insert]
    by_cases h : named.key = key <;> simp [h]

/-- The number of types. -/
def size (t : TypeTable) : Nat := t.types.length

/-- How many definitions in a row are followed. -/
def maxDefinitions : Nat := 8

/-- The key after following up to `steps` aliases. -/
def followAliases (t : TypeTable) : Nat → TypeKey → TypeKey
  | 0, key => key
  | steps + 1, key => match t.get? key with
    | some { isAlias := true, definition := .type (.named next), .. } => t.followAliases steps next
    | _ => key

/-- The key that identifies a type once its aliases are followed. -/
def identity (t : TypeTable) (key : TypeKey) : TypeKey := t.followAliases maxDefinitions key

/-- The fields of a named type after following fewer than `steps` definitions. -/
def fieldsWithin (t : TypeTable) : Nat → TypeKey → Option (List (FieldDef Ty))
  | 0, _ => none
  | steps + 1, key => match t.get? key with
    | some { definition := .struct fields, .. } => some fields
    | some { definition := .type (.named next), .. } => t.fieldsWithin steps next
    | _ => none

/-- The fields of a named struct type, following definitions by other named types. -/
def structFields? (t : TypeTable) (key : TypeKey) : Option (List (FieldDef Ty)) :=
  t.fieldsWithin maxDefinitions key

end TypeTable

end FieldAudit
