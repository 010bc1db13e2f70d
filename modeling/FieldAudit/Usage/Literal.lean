import FieldAudit.Syntax.Basic
import FieldAudit.Usage.Basic

/-!
# Fields supplied by composite literals

A literal `T{A: x, B: U{C: y}}` consumes `A` and `B.C`. A literal with a positional element sets
every field and consumes the value as a unit.
-/

namespace FieldAudit

namespace Usage

mutual

/-- The fields that an expression supplies if it is a composite literal inside parentheses and,
    where `address` allows it, one address-of operator. -/
def ofLiteral? (address : Bool) : Expr → Option Usage
  | .paren inner => ofLiteral? address inner
  | .unary op operand => if address && op == "&" then ofLiteral? false operand else none
  | .composite _ elements => some (ofElements elements)
  | _ => none

/-- The fields that the elements of a literal supply. -/
def ofElements : List (Element Expr) → Usage
  | [] => ∅
  | element :: elements => (ofElement element).merge (ofElements elements)

/-- The fields that one element supplies: a field takes those of a nested literal, or is consumed. -/
def ofElement : Element Expr → Usage
  | .positional _ => unit
  | .field name value => below [name] ((ofLiteral? true value).getD unit)
  | .keyed _ _ => ∅

end

/-- The fields supplied by a composite literal, possibly behind `&`. -/
def supplied? (e : Expr) : Option Usage := ofLiteral? true e

/-- The usage of a field that is assigned a value: the fields of a literal, else all of it. -/
def assignedFrom (e : Expr) : Usage := (supplied? e).getD unit

end Usage

end FieldAudit
