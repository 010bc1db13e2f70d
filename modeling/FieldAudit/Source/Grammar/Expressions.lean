import FieldAudit.Source.Grammar.Types

/-!
# Grammar of expressions

Operands with what follows them, unary operators, and binary operators by strength.
-/

namespace FieldAudit.Source

/-- How strongly a binary operator binds. -/
def strength? (op : String) : Option Nat :=
  if ["*", "/", "%", "<<", ">>", "&", "&^"].contains op then some 5
  else if ["+", "-", "|", "^"].contains op then some 4
  else if ["==", "!=", "<", "<=", ">", ">="].contains op then some 3
  else if op = "&&" then some 2
  else if op = "||" then some 1
  else none

/-- Joins the last operand with those before it whose operators bind at least as strongly as a
    limit. -/
def collapse (limit : Nat) : List (Expr × String) → Expr → List (Expr × String) × Expr
  | (left, op) :: rest, right =>
    if limit ≤ (strength? op).getD 0 then collapse limit rest (.binary op left right)
    else ((left, op) :: rest, right)
  | [], right => ([], right)

/-- The tree of a chain of operands and operators. Stronger operators bind first, equal ones from the
    left. `pending` holds what still waits for its right operand, the last one first. -/
def assemble (pending : List (Expr × String)) (operand : Expr) : List (String × Expr) → Expr
  | [] => (collapse 0 pending operand).2
  | (op, next) :: rest =>
    let (waiting, left) := collapse ((strength? op).getD 0) pending operand
    assemble ((left, op) :: waiting) next rest

open Reader

namespace Grammar

variable (g : Grammar)

/-- A part of an element of a literal, where a nested literal may leave out its type. -/
def elementPart : Reader Expr := do
  if ← sees "\x7b" then return .composite none (← g.literal) else g.value .inner

/-- An element of a literal. -/
def element : Reader (Element Expr) := do
  let key ← g.elementPart
  if ← accept ":" then
    let value ← g.elementPart
    match key with
    | .ident name => return .field name value
    | _ => return .keyed key value
  else return .positional key

/-- The elements of a literal, braces included. -/
def literalStep : Reader (List (Element Expr)) := do
  expect "\x7b"
  looseList "\x7d" g.element

/-- The words that stand for constant values. -/
def constantWords : List String := ["nil", "true", "false", "iota"]

/-- A function literal, or a function type if no body follows. -/
def funcOperand : Reader Reading := do
  let _ ← g.params
  let _ ← g.results .inner
  if ← sees "\x7b" then return .ofValue (.funcLit (← g.block))
  else return .ofType .func .other

/-- A slice or array type after its opening bracket, where the length may be left to the elements. -/
def listOperand (mode : Mode) : Reader Reading := do
  if ← accept "..." then
    expect "]"
    let type ← g.type mode
    guard (← sees "\x7b")
    return .ofType (.array type) .literal
  else return .ofType (← g.listType mode) .literal

/-- An operand. -/
def operand (mode : Mode) : Reader Reading := do
  let t ← take
  match t.kind with
  | .quoted | .raw | .literal => return .ofValue (.literal t.text)
  | .word =>
    if t.text = "func" then g.funcOperand
    else if ["struct", "map"].contains t.text then
      return .ofType (← g.typeAfterWord mode t.text) .literal
    else if ["chan", "interface"].contains t.text then
      return .ofType (← g.typeAfterWord mode t.text) .other
    else if constantWords.contains t.text then return .ofValue (.literal t.text)
    else return .ofName t.text
  | .symbol =>
    if t.text = "[" then g.listOperand mode
    else if t.text = "<-" then
      expectWord "chan"
      return .ofType (.chan (← g.type mode)) .other
    else
      guard (t.text = "(")
      let inner ← g.expr .inner
      expect ")"
      return inner.paren
  | .stop => failure

/-- The bounds of a slice after the first colon. -/
def sliceBounds : Reader (List Expr) := do
  if ← accept "]" then return []
  let stop ← g.value .inner
  let capacity ← if ← accept ":" then pure [← g.value .inner] else pure []
  expect "]"
  return stop :: capacity

/-- What brackets make of an operand: an element, a slice or type arguments. -/
def brackets (r : Reading) : Reader Reading := do
  expect "["
  if ← accept ":" then r.slice (← g.sliceBounds)
  else
    let first ← g.expr .inner
    if ← accept ":" then r.slice ((← first.value) :: (← g.sliceBounds))
    else if ← accept "]" then r.index first
    else
      expect ","
      r.instantiate (first :: (← commaList "]" (g.expr .inner)))

/-- An argument of a call. -/
def argument : Reader Argument := do
  let reading ← g.expr .inner
  return { reading, spread := ← accept "..." }

/-- Whether the next tokens are `.(type)`, the mark of a type switch. -/
def seesTypeGuard : Reader Bool := do
  match ← get with
  | a :: b :: c :: d :: _ =>
    return a.isSymbol "." && b.isSymbol "(" && c.isWord "type" && d.isSymbol ")"
  | _ => return false

/-- A literal of a type of more than one word after which the row goes on. -/
def rowLiteral (r : Reading) : Reader Reading := do
  let type ← r.longType?
  let elements ← g.literal
  guard !(← peek).newline
  return .ofValue (.composite (some type) elements)

/-- One more piece after an operand, if there is one. -/
def suffix (mode : Mode) (r : Reading) : Reader (Option Reading) := do
  let t ← peek
  if t.kind != .symbol || (mode.endsBefore t && r.value.isSome) then return none
  match t.text with
  | "." =>
    if mode.isHeader && (← seesTypeGuard) then return none
    let _ ← take
    if ← accept "(" then
      let type ← g.type .inner
      expect ")"
      return some (.ofValue (.assert (← r.value) (some type)))
    else return some (← r.select (← word).text)
  | "[" => return some (← g.brackets r)
  | "(" =>
    let _ ← take
    return some (← r.call (← commaList ")" g.argument))
  | "\x7b" =>
    match r.literalType? mode.isHeader with
    | some type => return some (.ofValue (.composite (some type) (← g.literal)))
    | none =>
      if mode == .openHeader then orTry (some <$> g.rowLiteral r) (return none) else return none
  | _ => return none

/-- All that follows an operand, in at most `n` pieces. -/
def suffixes (mode : Mode) : Nat → Reading → Reader Reading
  | 0, _ => failure
  | n + 1, r => do
    match ← g.suffix mode r with
    | some next => suffixes mode n next
    | none => return r

/-- The operators that stand before an operand. -/
def unaryOperators : List String := ["+", "-", "!", "^", "*", "&", "<-"]

/-- A unary operator, if one is next. An arrow before the word `chan` belongs to a type. -/
def unaryOperator? : Reader (Option String) := do
  let t ← peek
  if !unaryOperators.any t.isSymbol || (t.isSymbol "<-" && (← peekSecond).isWord "chan") then
    return none
  return some (← take).text

/-- An operand with the unary operators before it and all that follows it. -/
def unaryExpr (mode : Mode) : Reader Reading := do
  let ops ← many unaryOperator?
  let first ← g.operand mode
  let r ← g.suffixes mode ((← get).length + 1) first
  return ops.foldr Reading.unary r

/-- An expression. -/
def exprStep (mode : Mode) : Reader Reading := do
  let first ← g.unaryExpr mode
  let rest ← many do
    let t ← peek
    if mode.endsBefore t || t.kind != .symbol || (strength? t.text).isNone then return none
    let _ ← take
    return some (t.text, ← (← g.unaryExpr mode).value)
  if rest.isEmpty then return first
  else return .ofValue (assemble [] (← first.value) rest)

/-- One or more values between commas. -/
def values (mode : Mode) : Reader (List Expr) := commaSep mode (g.value mode)

end Grammar

end FieldAudit.Source
