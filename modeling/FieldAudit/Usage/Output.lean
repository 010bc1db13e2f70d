import FieldAudit.Usage.Collect

/-!
# Fields supplied to the result

What a body supplies to the value that it returns: the accesses to the output variable, together
with the literals of the destination type that occur in assignments, declarations and returns, also
below chained method calls and among appended elements.
-/

namespace FieldAudit

/-- Equality of names up to the case of ASCII letters. -/
def sameName (a b : String) : Bool := a.toList.map Char.toLower == b.toList.map Char.toLower

/-- Whether a written type, or its pointee, has this name. -/
def TypeExpr.hasBase (t : TypeExpr) (name : String) : Bool := t.baseName?.any (sameName · name)

/-- Whether an expression builds a value of the named type: `T{}`, `&T{}` or `new(T)`. -/
def Expr.constructs (e : Expr) (typeName : String) : Bool :=
  match e.unaddress with
  | .composite (some t) _ => t.hasBase typeName
  | .call (.ident "new") [.ident name] => sameName name typeName
  | .call (.ident "new") [.type t] => t.hasBase typeName
  | _ => false

/-- The variable that a statement binds to a new value of the named type. -/
def Stmt.boundTo? (typeName : String) : Stmt → Option String
  | .assign targets .define values =>
    if targets.length = values.length then
      ((targets.zip values).find? (·.2.constructs typeName)).bind (·.1.ident?)
    else none
  | .var names type [] => if type.any (·.hasBase typeName) then names.head? else none
  | .var names _ values => ((names.zip values).find? (·.2.constructs typeName)).map (·.1)
  | _ => none

/-- The local variable that holds the result: the first one bound to a value of the named type,
    unless it is blank. -/
def Block.outputVar? (body : Block) (typeName : String) : Option String :=
  (Block.findStmt? (Stmt.boundTo? typeName) body).filter (· != "_")

namespace Usage

mutual

/-- The fields of the literal of the named type behind an expression, looking through parentheses,
    `&` where `address` allows it, and method calls on the literal. -/
def ofConstruction? (typeName : String) (address : Bool) : Expr → Option Usage
  | .paren inner => ofConstruction? typeName address inner
  | .unary op operand =>
    if address && op == "&" then ofConstruction? typeName false operand else none
  | .composite (some t) elements => if t.hasBase typeName then some (ofElements elements) else none
  | .call callee _ => ofReceiver? typeName callee
  | _ => none

/-- The fields of the literal of the named type behind the receiver of a called method. -/
def ofReceiver? (typeName : String) : Expr → Option Usage
  | .paren inner => ofReceiver? typeName inner
  | .selector base _ => ofConstruction? typeName true base
  | _ => none

end

/-- The fields of a construction of the named type. -/
def constructed? (e : Expr) (typeName : String) : Option Usage := ofConstruction? typeName true e

end Usage

/-- The values that an expression hands over: the appended elements of a call of `append`, else the
    expression without its parentheses. -/
def Expr.handedOver (e : Expr) : List Expr :=
  match e.unparen with
  | .call (.ident "append") (_ :: elements) => elements
  | value => [value]

/-- The values that a statement hands over: those assigned, declared or returned. -/
def Stmt.produced : Stmt → List Expr
  | .assign _ _ values => values.flatMap Expr.handedOver
  | .var _ _ values => values.flatMap Expr.handedOver
  | .ret values => values.flatMap Expr.handedOver
  | _ => []

/-- What the literals of the named type in a body supply. -/
def Block.constructions (body : Block) (typeName : String) : Usage :=
  Block.foldStmts (fun built s => s.produced.foldl
    (fun built value => (Usage.constructed? value typeName).elim built built.merge) built) body ∅

/-- What a body supplies to its result. -/
structure OutputUsage where
  /-- The output variable, declared or inferred. -/
  var : Option String
  usage : VariableUsage

/-- What a body supplies to its result of the named type. A blank result name counts as none, and
    without a result name the variable is inferred from the body. -/
def Block.outputUsage (body : Block) (resultName : Option String) (typeName : String) : OutputUsage :=
  let var := (resultName.filter (· != "_")).or (Block.outputVar? body typeName)
  let accessed := var.elim ∅ (VariableUsage.collect body)
  let built := Block.constructions body typeName
  { var, usage := accessed.merge { fields := built.fieldNames, tree := built } }

end FieldAudit
