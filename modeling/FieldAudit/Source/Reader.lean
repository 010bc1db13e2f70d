import FieldAudit.Source.Doc

/-!
# Reading tokens

A reader takes tokens from the front of a list, or fails. Where a statement may end, a line break
before the next token ends it; inside of brackets and in the header of a control statement line
breaks have no meaning.
-/

namespace FieldAudit.Source

/-- A reader of tokens. -/
abbrev Reader := StateT (List Token) Option

/-- Where an expression or a type stands. -/
inductive Mode where
  /-- In a statement, which a line break may end. -/
  | statement
  /-- Before the block of a control statement, where `T {` does not begin a literal. -/
  | header
  /-- The same, but a type of more than one word begins a literal if the row goes on behind it. -/
  | openHeader
  /-- Inside of brackets. -/
  | inner
deriving DecidableEq, Inhabited

/-- Whether a line break before a token ends what came before it. -/
def Mode.endsBefore (mode : Mode) (t : Token) : Bool := mode == .statement && t.newline

/-- Whether a block is to follow. -/
def Mode.isHeader (mode : Mode) : Bool := mode == .header || mode == .openHeader

/-- Whether a token is this symbol. -/
def Token.isSymbol (t : Token) (s : String) : Bool := t.kind == .symbol && t.text == s

/-- Whether a token is this word. -/
def Token.isWord (t : Token) (s : String) : Bool := t.kind == .word && t.text == s

namespace Reader

/-- The next token, which stays. -/
def peek : Reader Token := do return (← get).headD {}

/-- The token after the next one. -/
def peekSecond : Reader Token := do return (← get).tail.headD {}

/-- Takes the next token. -/
def take : Reader Token := do
  match ← get with
  | t :: rest => set rest; return t
  | [] => failure

/-- Whether the next token is this symbol. -/
def sees (s : String) : Reader Bool := return (← peek).isSymbol s

/-- Whether the next token is this word. -/
def seesWord (s : String) : Reader Bool := return (← peek).isWord s

/-- Takes the next token if it is this symbol, and tells whether it was. -/
def accept (s : String) : Reader Bool := do
  if ← sees s then let _ ← take; return true else return false

/-- Takes this symbol. -/
def expect (s : String) : Reader Unit := do guard (← accept s)

/-- Takes this word. -/
def expectWord (s : String) : Reader Unit := do
  guard (← seesWord s)
  let _ ← take

/-- Takes any word. -/
def word : Reader Token := do
  let t ← take
  guard (t.kind == .word)
  return t

/-- The first result of either reader. -/
def orTry {α : Type} (a b : Reader α) : Reader α := fun s => (a s).or (b s)

/-- Repeats a step until it has no result, at most `n` times. -/
def upTo {α : Type} (step : Reader (Option α)) : Nat → Reader (List α)
  | 0 => failure
  | n + 1 => do
    match ← step with
    | none => return []
    | some a => return a :: (← upTo step n)

/-- Repeats a step until it has no result. Every result takes a token, so the number of tokens bounds
    the number of steps. -/
def many {α : Type} (step : Reader (Option α)) : Reader (List α) := do
  upTo step ((← get).length + 1)

/-- Items between commas, up to a closing symbol, which is taken. A comma may stand before it. -/
def commaList {α : Type} (close : String) (item : Reader α) : Reader (List α) := do
  let items ← many do
    if ← sees close then return none
    let a ← item
    unless ← accept "," do guard (← sees close)
    return some a
  expect close
  return items

/-- Items between commas as in `commaList`, or a comma alone. -/
def looseList {α : Type} (close : String) (item : Reader α) : Reader (List α) := do
  if ← accept "," then
    expect close
    return []
  else commaList close item

/-- One or more items between commas. -/
def commaSep {α : Type} (mode : Mode) (item : Reader α) : Reader (List α) := do
  let first ← item
  let rest ← many do
    if mode.endsBefore (← peek) then return none
    if ← accept "," then return some (← item) else return none
  return first :: rest

/-- Takes the end of a statement: a line break or a semicolon. -/
def terminator : Reader Unit := do
  let t ← peek
  unless t.newline do
    guard (t.isSymbol ";" || t.isSymbol "\x00")
    let _ ← take

end Reader

end FieldAudit.Source
