import FieldAudit.Syntax.Node

/-!
# Delegating converters

A converter of sequences that hands every element to another function is not checked itself:

    for _, u := range in {
        out = append(out, ToDTO(u))
    }
-/

namespace FieldAudit

/-- The expression inside parentheses, `&` and `*`. -/
def Expr.core : Expr → Expr
  | .paren inner => inner.core
  | .unary op operand => if op = "&" ∨ op = "*" then operand.core else .unary op operand
  | e => e

/-- Whether the value comes from a call. -/
def Expr.isCall (e : Expr) : Bool :=
  match e.core with
  | .call _ _ => true
  | _ => false

/-- The element variable of a range over the variable; a blank one counts as none. -/
def Stmt.rangeElement? (var : String) : Stmt → Option String
  | .range _ (some value) _ subject _ =>
    if subject.unparen.ident? = some var then value.ident?.filter (· != "_") else none
  | _ => none

/-- The element variable of the first range over the variable that has one. -/
def Block.rangeElement? (body : Block) (var : String) : Option String :=
  Block.findStmt? (Stmt.rangeElement? var) body

/-- The identifiers that a statement binds to the results of one call. -/
def Stmt.callBound : Stmt → List String
  | .assign targets _ [value] => if value.isCall then targets.filterMap Expr.ident? else []
  | .var names _ [value] => if value.isCall then names else []
  | _ => []

/-- The identifiers that are bound to the result of a call anywhere in a body. -/
def Block.callBound (body : Block) : List String :=
  Block.foldStmts (fun bound s => bound ++ s.callBound) body []

/-- Whether a value is, or is bound to, the result of a call. -/
def Expr.forwards (bound : List String) (e : Expr) : Bool :=
  e.isCall || e.core.ident?.any bound.contains

/-- Whether a node stores the result of a call: `append(out, f(x))` or `out[i] = f(x)`. -/
def Node.storesCall (bound : List String) : Node → Bool
  | .expr (.call (.ident "append") (_ :: elements)) => elements.any (Expr.forwards bound)
  | .stmt (.assign (.index _ _ :: _) _ (value :: _)) => value.isCall
  | _ => false

/-- Whether some node of a body stores the result of a call. Once there is one, every further node is
    refused. -/
def Block.storesCall (body : Block) : Bool :=
  let bound := Block.callBound body
  Block.walk (fun v found => (!found, found || v.node.storesCall bound)) body false

/-- Whether a body ranges over the variable and stores results of calls. -/
def Block.forwardsElements (body : Block) (var : String) : Bool :=
  (Block.rangeElement? body var).isSome && Block.storesCall body

end FieldAudit
