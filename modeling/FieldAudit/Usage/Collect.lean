import FieldAudit.Syntax.Node
import FieldAudit.Usage.Literal

/-!
# Usage of a variable

A selector chain such as `v.User.Role` is recorded once, at its outermost selector and with its full
path. What is recorded depends on the part that this selector plays in the node around it.
-/

namespace FieldAudit

/-- The root identifier and the field path of a selector chain, looking through indexing,
    parentheses, `*` and `&`. -/
def Expr.chain? : Expr → Option (String × Path)
  | .ident name => some (name, [])
  | .selector base field => base.chain?.map fun (root, path) => (root, path ++ [field])
  | .index base _ => base.chain?
  | .paren inner => inner.chain?
  | .unary op operand => if op = "*" ∨ op = "&" then operand.chain? else none
  | _ => none

/-- Whether the innermost frames carry a selector chain on to a further selector. -/
def chainGoesOn : List Frame → Bool
  | [] => false
  | frame :: frames => match frame.role with
    | .selected => true
    | .indexed | .enclosed | .operand "*" => chainGoesOn frames
    | _ => false

/-- How the outermost selector of a chain is used. -/
inductive Access where
  | read
  /-- The chain is called: its last name is a method. -/
  | called
  /-- The value goes to the blank identifier. -/
  | ignored
  /-- The chain is assigned this value. -/
  | assigned (value : Expr)

/-- The use of an expression by the node directly around it. -/
def Access.ofFrames : List Frame → Access
  | ⟨.expr _, .callee⟩ :: _ => .called
  | ⟨.stmt (.assign targets _ values), .assigned i⟩ :: _ =>
    let target := if targets.length = values.length then targets[i]? else targets.head?
    if target.bind Expr.ident? = some "_" then .ignored else .read
  | ⟨.stmt (.assign targets _ values), .target i⟩ :: _ =>
    if targets.length = values.length then (values[i]?).elim .read .assigned else .read
  | _ => .read

namespace VariableUsage

/-- The record of an access to a path. -/
def ofAccess (path : Path) : Access → VariableUsage
  | .read => { fields := .ofList path.head?.toList, tree := .below path .unit }
  | .ignored => { ignored := .ofList path.head?.toList, tree := .below path .unit }
  | .assigned value =>
    { fields := .ofList path.head?.toList, tree := .below path (.assignedFrom value) }
  | .called => match path.getLast? with
    | none => ∅
    | some method => match path.dropLast with
      | [] => { methods := {method}, tree := .call method }
      | field :: rest =>
        { fields := {field}, tree := .below (field :: rest) (.merge .unit (.call method)) }

/-- The record that a visited node makes for a variable: none unless the node is the outermost
    selector of a chain on the variable. -/
def ofVisit (var : String) (visit : Visit) : VariableUsage :=
  match visit.node with
  | .expr (.selector base field) =>
    if chainGoesOn visit.frames then ∅
    else match (Expr.selector base field).chain? with
      | some (root, path) => if root = var then ofAccess path (.ofFrames visit.frames) else ∅
      | none => ∅
  | _ => ∅

/-- Everything that a body does with a variable. -/
def collect (body : Block) (var : String) : VariableUsage :=
  Block.walk (fun v usage => (true, usage.merge (ofVisit var v))) body ∅

end VariableUsage

end FieldAudit
