/-!
# Written types

Types as a source file spells them, before any name is looked up. Only what the audit needs is
kept: function and interface types have no inner structure, and type arguments are dropped.
-/

namespace FieldAudit

/-- A field of a struct type, over a notion `τ` of type. -/
structure StructField (τ : Type) where
  name : String
  /-- Declared by its type alone, as in `Base` or `*Base`. -/
  embedded : Bool := false
  type : τ
  /-- Contents of the tag literal. -/
  tag : Option String := none
  /-- Documented as `Deprecated:`. -/
  deprecated : Bool := false
deriving Inhabited

/-- A type as it is written. -/
inductive TypeExpr where
  /-- `Name` or `pkg.Name`. -/
  | named (package : Option String) (name : String)
  /-- `Name[T]`, with the arguments left out. -/
  | generic (of : TypeExpr)
  | pointer (of : TypeExpr)
  | slice (of : TypeExpr)
  | array (of : TypeExpr)
  | map (key value : TypeExpr)
  | chan (of : TypeExpr)
  | func
  | interface
  | struct (fields : List (StructField TypeExpr))
  | other

namespace TypeExpr

instance : Inhabited TypeExpr := ⟨.other⟩

/-- The name of a named type, looking through one pointer. -/
def baseName? : TypeExpr → Option String
  | named _ name => some name
  | pointer (named _ name) => some name
  | _ => none

end TypeExpr

end FieldAudit
