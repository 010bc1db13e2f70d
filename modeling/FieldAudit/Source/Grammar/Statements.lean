import FieldAudit.Source.Grammar.Expressions

/-!
# Grammar of statements

Statements, and the declarations that may stand among them.
-/

namespace FieldAudit.Source

open Reader

namespace Grammar

variable (g : Grammar)

/-- One specification, or any number of them between parentheses, each with its end. -/
def specs {α : Type} (spec : Reader α) : Reader (List α) := do
  if ← accept "(" then
    let items ← many do
      if ← sees ")" then return none
      let item ← spec
      terminator
      return some item
    expect ")"
    return items
  else return [← spec]

/-- The values after `=`, if there are any. -/
def initialValues : Reader (List Expr) := do
  if Mode.statement.endsBefore (← peek) then return []
  if ← accept "=" then g.values .statement else return []

/-- Names with a type or values or both. -/
def varSpec : Reader Stmt := do
  let names := (← commaSep .statement word).map (·.text)
  if ← sees "=" then return .var names none (← g.initialValues)
  else
    let type ← g.type .statement
    return .var names (some type) (← g.initialValues)

/-- Names of constants; a specification without values repeats the one before. -/
def constSpec : Reader Unit := do
  let _ ← commaSep .statement word
  let t ← peek
  unless t.newline || t.isSymbol ";" || t.isSymbol "\x7d" || t.kind == .stop do
    unless ← sees "=" do
      let _ ← g.type .statement
    expect "="
    let _ ← g.values .statement

/-- Names of type parameters with their constraint. -/
def typeParam : Reader (List String) := do
  let names ← commaSep .inner word
  let _ ← g.typeUnion .inner
  return names.map (·.text)

/-- A list of type parameters. -/
def typeParams : Reader (List String) := do
  expect "["
  let groups ← commaList "]" g.typeParam
  guard !groups.isEmpty
  return groups.flatten

/-- A type declaration after its name. -/
def typeSpecAfter (name : Token) : Reader TypeDecl := do
  let bracket ← sees "["
  let list : Reader (Bool × Bool × TypeExpr) := do
    expect "["
    return (false, false, ← g.listType .statement)
  let other : Reader (Bool × Bool × TypeExpr) := do
    if bracket then
      let _ ← g.typeParams
    let isAlias ← accept "="
    return (bracket, isAlias, ← g.type .statement)
  let (generic, isAlias, type) ← if bracket then orTry list other else other
  let stop := (← peek).before
  return { name := name.text, isAlias, generic, type, span := ⟨name.span.start, stop⟩ }

/-- A type declaration. -/
def typeSpec : Reader TypeDecl := do g.typeSpecAfter (← word)

/-- The rest of a simple statement after its first values. -/
def simpleAfter (mode : Mode) (targets : List Expr) : Reader Stmt := do
  let t ← peek
  let alone : Reader Expr := match targets with
    | [e] => return e
    | _ => failure
  if t.kind != .symbol || mode.endsBefore t then return .expr (← alone)
  match t.text with
  | ":=" =>
    let _ ← take
    return .assign targets .define (← g.values mode)
  | "=" =>
    let _ ← take
    return .assign targets .assign (← g.values mode)
  | "++" | "--" =>
    let _ ← take
    return .incDec (← alone)
  | "<-" =>
    let _ ← take
    return .send (← alone) (← g.value mode)
  | op =>
    if op.endsWith "=" && (strength? (op.dropEnd 1).toString |>.any (3 < ·)) then
      let _ ← take
      return .assign targets .compound (← g.values mode)
    else return .expr (← alone)

/-- A simple statement. -/
def simpleStmt (mode : Mode) : Reader Stmt := do g.simpleAfter mode (← g.values mode)

/-- The header of a control statement: with literals of types of more than one word if a block then
    follows on the same row, else without. -/
def header {α : Type} (read : Mode → Reader α) : Reader α :=
  let withLiterals : Reader α := do
    let a ← read .openHeader
    let t ← peek
    guard (t.isSymbol "\x7b" && !t.newline)
    return a
  orTry withLiterals (read .header)

/-- The header of a conditional. -/
def ifHeader (mode : Mode) : Reader (Option Stmt × Expr) := do
  let first ← g.simpleStmt mode
  if ← accept ";" then return (some first, ← g.value mode)
  else match first with
    | .expr e => return (none, e)
    | _ => failure

/-- A conditional after its first word. -/
def ifStmt : Reader Stmt := do
  let (init, test) ← header g.ifHeader
  let body ← g.block
  let next ← peek
  if next.isWord "else" && !next.newline then
    let _ ← take
    let otherwise ← if ← sees "\x7b" then some <$> (.block <$> g.block) else do
      guard (← seesWord "if")
      g.stmt
    return .cond init test body otherwise
  else return .cond init test body none

/-- The header of a loop with three parts, after the first semicolon. -/
def loopAfter (mode : Mode) (init : Option Stmt) : Reader (Block → Stmt) := do
  let test ← if ← sees ";" then pure none else some <$> g.value mode
  expect ";"
  let post ← if ← sees "\x7b" then pure none else some <$> g.simpleStmt mode
  return .loop init test post

/-- The header of a loop over the elements of a value, after the word `range`. -/
def rangeAfter (mode : Mode) (targets : List Expr) (define : Bool) : Reader (Block → Stmt) := do
  let subject ← g.value mode
  return .range targets.head? targets.tail.head? define subject

/-- The header of a loop. -/
def forHeader (mode : Mode) : Reader (Block → Stmt) := do
  if ← sees "\x7b" then return .loop none none none
  else if ← accept ";" then g.loopAfter mode none
  else if ← seesWord "range" then
    let _ ← take
    g.rangeAfter mode [] false
  else
    let targets ← g.values mode
    let op ← peek
    if (op.isSymbol ":=" || op.isSymbol "=") && (← peekSecond).isWord "range" then
      let _ ← take
      let _ ← take
      g.rangeAfter mode targets (op.text == ":=")
    else
      let first ← g.simpleAfter mode targets
      if ← accept ";" then g.loopAfter mode (some first)
      else match first with
        | .expr test => return .loop none (some test) none
        | _ => failure

/-- A loop after its first word. -/
def forStmt : Reader Stmt := do
  let loop ← header g.forHeader
  return loop (← g.block)

/-- Whether a token ends the statements of a clause. -/
def endsClause (t : Token) : Bool := t.isSymbol "\x7d" || t.isWord "case" || t.isWord "default"

/-- Statements up to a token that closes them, which stays. The last one may do without an end. -/
def statements (closes : Token → Bool) : Reader Block := do
  let found ← many do
    if closes (← peek) then return none
    let stmt ← g.stmt
    unless closes (← peek) do terminator
    return some stmt
  return found.filterMap id

/-- A block, braces included. -/
def blockStep : Reader Block := do
  expect "\x7b"
  let body ← g.statements (·.isSymbol "\x7d")
  expect "\x7d"
  return body

/-- The clauses between braces, where `label` reads what follows `case`: the values that are compared
    and the statements that come before the clause's own. -/
def clauses (label : Reader (List Expr × Block)) : Reader (List (Clause Expr Stmt)) := do
  expect "\x7b"
  let found ← many do
    if ← sees "\x7d" then return none
    let t ← word
    let (exprs, before) ←
      if t.text = "default" then pure ([], [])
      else do
        guard (t.text = "case")
        label
    expect ":"
    let body ← g.statements endsClause
    return some { exprs, body := before ++ body }
  expect "\x7d"
  return found

/-- What a type switch has between its first word and its clauses, or a simple statement. -/
inductive SwitchPart where
  | guard (value : Expr)
  | simple (stmt : Stmt)

/-- Reads a part of the header of a switch. -/
def switchPart (mode : Mode) : Reader SwitchPart := do
  let targets ← g.values mode
  let guarded (values : List Expr) : Reader SwitchPart := match values with
    | [e] => do
      set ((← get).drop 4)
      return .guard e
    | _ => failure
  if ← seesTypeGuard then guarded targets
  else if ← accept ":=" then
    let values ← g.values mode
    if ← seesTypeGuard then guarded values else return .simple (.assign targets .define values)
  else return .simple (← g.simpleAfter mode targets)

/-- The header of a switch. -/
def switchHeader (mode : Mode) : Reader (Option Stmt × Option SwitchPart) := do
  if ← sees "\x7b" then return (none, none)
  else
    let first ← g.switchPart mode
    if ← accept ";" then
      match first with
      | .guard _ => failure
      | .simple init =>
        if ← sees "\x7b" then return (some init, none)
        else return (some init, some (← g.switchPart mode))
    else return (none, some first)

/-- A switch after its header. -/
def switchAfter (init : Option Stmt) : Option SwitchPart → Reader Stmt
  | none => return .switch init none (← g.clauses (return (← g.values .inner, [])))
  | some (.simple (.expr tag)) =>
    return .switch init (some tag) (← g.clauses (return (← g.values .inner, [])))
  | some (.guard value) => do
    let types : Reader (List Expr × Block) := do
      let _ ← commaSep .inner (g.type .inner)
      return ([], [])
    return .switch init (some value) (← g.clauses types)
  | some (.simple _) => failure

/-- A switch after its first word. -/
def switchStmt : Reader Stmt := do
  let (init, part) ← header g.switchHeader
  g.switchAfter init part

/-- What a clause of a `select` waits for. -/
def communication : Reader Stmt := do
  match ← g.simpleStmt .inner with
  | .expr e => return .expr e
  | .send channel value => return .send channel value
  | .assign targets op [value] =>
    guard (op != .compound)
    return .assign targets .define [value]
  | _ => failure

/-- A `select` after its first word. -/
def selectStmt : Reader Stmt :=
  return .switch none none (← g.clauses (return ([], [← g.communication])))

/-- The values after `return`. -/
def returned : Reader (List Expr) := do
  let t ← peek
  if t.newline || t.kind == .stop || [";", "\x00", "\x7d"].any t.isSymbol then return []
  else g.values .statement

/-- An optional label after a jump. -/
def jumpLabel : Reader Unit := do
  let t ← peek
  if t.kind == .word && !t.newline then
    let _ ← take

/-- The statement that begins with a word of its own, if the word is one. -/
def keywordStmt? (first : String) : Option (Reader Stmt) :=
  match first with
  | "var" => some do
    match ← specs g.varSpec with
    | [spec] => return spec
    | specs => return .block specs
  | "const" => some do
    let _ ← specs g.constSpec
    return .other
  | "type" => some do
    let _ ← specs g.typeSpec
    return .other
  | "return" => some do return .ret (← g.returned)
  | "go" => some do return .go (← g.value .statement)
  | "defer" => some do return .defer (← g.value .statement)
  | "if" => some g.ifStmt
  | "for" => some g.forStmt
  | "switch" => some g.switchStmt
  | "select" => some g.selectStmt
  | "break" | "continue" => some do
    jumpLabel
    return .other
  | "goto" => some do
    let _ ← word
    return .other
  | "fallthrough" => some (return .other)
  | _ => none

/-- A statement; an empty one is left out. -/
def stmtStep : Reader (Option Stmt) := do
  let t ← peek
  if t.isSymbol "\x7b" then return some (.block (← g.block))
  else if ← accept ";" then return none
  else if t.kind == .word then
    match g.keywordStmt? t.text with
    | some rest =>
      let _ ← take
      return some (← rest)
    | none =>
      let colon ← peekSecond
      if colon.isSymbol ":" && !colon.newline then
        let _ ← take
        let _ ← take
        if endsClause (← peek) then return some (.labeled .other)
        else return some (.labeled ((← g.stmt).getD .other))
      else return some (← g.simpleStmt .statement)
  else return some (← g.simpleStmt .statement)

/-- The grammar whose nested parts are read by another one. -/
def step : Grammar :=
  { expr := g.exprStep, type := g.typeStep, literal := g.literalStep, block := g.blockStep
    stmt := g.stmtStep }

/-- The grammar for parts that nest less than `n` deep. -/
def upTo : Nat → Grammar
  | 0 => nothing
  | n + 1 => (upTo n).step

end Grammar

end FieldAudit.Source
