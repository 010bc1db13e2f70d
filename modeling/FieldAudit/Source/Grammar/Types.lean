import FieldAudit.Source.Reader
import FieldAudit.Source.Reading

/-!
# Grammar of types

Types, parameter lists and struct fields. The grammar is closed over itself by a record of readers
for the parts that may nest.
-/

namespace FieldAudit.Source

/-- The readers of the parts of the grammar that nest. -/
structure Grammar where
  expr : Mode → Reader Reading
  type : Mode → Reader TypeExpr
  /-- The elements of a literal, braces included. -/
  literal : Reader (List (Element Expr))
  /-- A block, braces included. -/
  block : Reader Block
  /-- A statement; an empty one is left out. -/
  stmt : Reader (Option Stmt)

/-- The grammar that reads nothing. -/
def Grammar.nothing : Grammar :=
  { expr := fun _ => failure, type := fun _ => failure, literal := failure, block := failure
    stmt := failure }

open Reader

namespace Grammar

variable (g : Grammar)

/-- An expression that is a value. -/
def value (mode : Mode) : Reader Expr := do (← g.expr mode).value

/-- A union of types, as in a constraint. -/
def typeUnion (mode : Mode) : Reader TypeExpr := do
  let first ← g.type mode
  let rest ← many do
    if mode.endsBefore (← peek) then return none
    if ← accept "|" then return some (← g.type mode) else return none
  return if rest.isEmpty then first else .other

/-- Type arguments after their opening bracket. -/
def typeArguments : Reader Unit := do
  let types ← commaList "]" (g.typeUnion .inner)
  guard !types.isEmpty

/-- The rest of a named type after its first word. -/
def namedType (mode : Mode) (first : String) : Reader TypeExpr := do
  let dot ← peek
  let name ←
    if dot.isSymbol "." && !mode.endsBefore dot then do
      let _ ← take
      pure (TypeExpr.named (some first) (← word).text)
    else pure (TypeExpr.named none first)
  let bracket ← peek
  if bracket.isSymbol "[" && !mode.endsBefore bracket then
    let _ ← take
    g.typeArguments
    return .generic name
  else return name

/-- A slice or array type after its opening bracket. -/
def listType (mode : Mode) : Reader TypeExpr := do
  if ← accept "]" then return .slice (← g.type mode)
  let _ ← g.value .inner
  expect "]"
  return .array (← g.type mode)

/-- An entry of a parameter list. -/
inductive ParamEntry where
  /-- A word that may be a name or a type. -/
  | bare (word : String)
  | typed (name : Option String) (type : TypeExpr)
  | variadic (name : Option String) (type : TypeExpr)

/-- Words that begin a type and so name no parameter. -/
def typeWords : List String := ["func", "struct", "map", "chan", "interface"]

/-- Reads an entry of a parameter list. -/
def paramEntry : Reader ParamEntry := do
  let t ← peek
  let second ← peekSecond
  let unnamed : Reader ParamEntry := return .typed none (← g.type .inner)
  let named : Reader ParamEntry := do
    let _ ← take
    return .typed (some t.text) (← g.type .inner)
  if ← accept "..." then return .variadic none (← g.type .inner)
  if t.kind != .word || typeWords.contains t.text then unnamed
  else if second.isSymbol "," || second.isSymbol ")" then
    let _ ← take
    return .bare t.text
  else if second.isSymbol "..." then
    let _ ← take
    let _ ← take
    return .variadic (some t.text) (← g.type .inner)
  else if second.isSymbol "." then unnamed
  else if second.isSymbol "[" then orTry named unnamed
  else named

/-- One parameter for each name. Words directly before a named parameter share its type; other bare
    words are types. -/
def groupParams (pending : List String) : List ParamEntry → List Param
  | [] => pending.map fun w => ⟨none, .named none w⟩
  | .bare w :: rest => groupParams (pending ++ [w]) rest
  | .typed (some name) type :: rest =>
    (pending ++ [name]).map (fun w => ⟨some w, type⟩) ++ groupParams [] rest
  | .typed none type :: rest =>
    pending.map (fun w => ⟨none, .named none w⟩) ++ ⟨none, type⟩ :: groupParams [] rest
  | .variadic name type :: rest =>
    pending.map (fun w => ⟨none, .named none w⟩) ++ ⟨name, .slice type⟩ :: groupParams [] rest

/-- A parameter list. -/
def params : Reader (List Param) := do
  expect "("
  return groupParams [] (← looseList ")" g.paramEntry)

/-- The results of a function, if it has any. -/
def results (mode : Mode) : Reader (List Param) := do
  let t ← peek
  if mode.endsBefore t then return []
  if t.isSymbol "(" then g.params
  else if t.kind == .word || ["*", "[", "<-"].any t.isSymbol then return [⟨none, ← g.type mode⟩]
  else return []

/-- The entries between braces, each ended by a line break or a semicolon, and the comments between
    them. The last one may do without an end. -/
def entriesBetweenBraces {α : Type} (entry : Reader α) : Reader (List (Item α)) := do
  expect "\x7b"
  let items ← many do
    let t ← peek
    if t.isSymbol "\x7d" then return none
    let content ← entry
    let stop ← peek
    let node := Item.node t.span.start.row stop.before.row content
    let before := t.comments.map Item.comment
    if stop.isSymbol "\x7d" then return some (before ++ [node])
    terminator
    let after := if stop.newline then [] else stop.comments.map Item.comment
    return some (before ++ node :: after)
  expect "\x7d"
  return items.flatten

/-- A method or a union of types in an interface. -/
def interfaceEntry : Reader Unit := do
  if (← peek).kind == .word && (← peekSecond).isSymbol "(" then
    let _ ← take
    let _ ← g.params
    let _ ← g.results .statement
  else
    let _ ← g.typeUnion .statement

/-- The text that is meant by the inside of a quoted literal: `\n` and `\t` stand for a line break and a
    tab, and a backslash before any other character is dropped. -/
def unescape : List Char → List Char
  | [] => []
  | '\\' :: c :: rest =>
    (if c = 'n' then '\n' else if c = 't' then '\t' else c) :: unescape rest
  | c :: rest => c :: unescape rest

/-- What stands between a first and a last character `q`. -/
def between? (q : Char) (s : List Char) : Option (List Char) :=
  match s with
  | c :: rest => if c = q ∧ rest.getLast? = some q then some rest.dropLast else none
  | [] => none

/-- The contents of a tag literal. A raw literal and a quoted one lose their quotes, and the escapes of
    a quoted one are replaced by what they mean. -/
def tagContents (raw : List Char) : List Char :=
  match between? (Char.ofNat 0x60) raw with
  | some inner => inner
  | none => match between? '"' raw with
    | some inner => unescape inner
    | none => raw

/-- The tag after a field, if there is one. -/
def tag? : Reader (Option String) := do
  let t ← peek
  if !t.newline && (t.kind == .quoted || t.kind == .raw) then
    let _ ← take
    return some (.ofList (tagContents t.text.toList))
  else return none

/-- The name under which a type is embedded. -/
def embeddedName : TypeExpr → String
  | .named _ name => name
  | .generic of => of.baseName?.getD ""
  | _ => ""

/-- An embedded field. -/
def embeddedField (pointer : Bool) : Reader (List (StructField TypeExpr)) := do
  let first ← word
  let type ← g.namedType .statement first.text
  return [{ name := embeddedName type, embedded := true
            type := if pointer then .pointer type else type, tag := ← tag? }]

/-- Fields that are declared by name. -/
def namedFields : Reader (List (StructField TypeExpr)) := do
  let names ← commaSep .statement word
  let type ← g.type .statement
  let tag ← tag?
  return names.map fun name => { name := name.text, type, tag }

/-- A field of list type, told from an embedded generic type by the element type after the
    brackets. -/
def listField : Reader (List (StructField TypeExpr)) := do
  let name ← word
  expect "["
  let type ←
    if ← accept "]" then pure (TypeExpr.slice (← g.type .statement))
    else do
      let _ ← g.value .inner
      expect "]"
      guard !(← peek).newline
      pure (TypeExpr.array (← g.type .statement))
  return [{ name := name.text, type, tag := ← tag? }]

/-- A field declaration. -/
def fieldEntry : Reader (List (StructField TypeExpr)) := do
  if ← accept "*" then g.embeddedField true
  else
    let second ← peekSecond
    if second.newline || second.kind == .quoted || second.kind == .raw
        || [".", ";", "\x7d"].any second.isSymbol then g.embeddedField false
    else if second.isSymbol "[" then orTry g.listField (g.embeddedField false)
    else g.namedFields

/-- A struct type after its first word. -/
def structType : Reader TypeExpr := do
  let row := (← peek).span.start.row
  let items ← entriesBetweenBraces g.fieldEntry
  return .struct ((deprecations row items).flatMap fun (fields, deprecated) =>
    fields.map ({ · with deprecated }))

/-- The type that begins with a word. -/
def typeAfterWord (mode : Mode) (first : String) : Reader TypeExpr :=
  match first with
  | "func" => do
    let _ ← g.params
    let _ ← g.results mode
    return .func
  | "struct" => g.structType
  | "interface" => do
    let _ ← entriesBetweenBraces g.interfaceEntry
    return .interface
  | "map" => do
    expect "["
    let key ← g.type .inner
    expect "]"
    return .map key (← g.type mode)
  | "chan" => do
    let _ ← accept "<-"
    return .chan (← g.type mode)
  | name => g.namedType mode name

/-- A type. -/
def typeStep (mode : Mode) : Reader TypeExpr := do
  let t ← take
  match t.kind with
  | .word => g.typeAfterWord mode t.text
  | .symbol => match t.text with
    | "*" => return .pointer (← g.type mode)
    | "(" =>
      let inner ← g.type .inner
      expect ")"
      return inner
    | "[" => g.listType mode
    | "<-" =>
      expectWord "chan"
      return .chan (← g.type mode)
    | "~" =>
      let _ ← g.type mode
      return .other
    | _ => failure
  | _ => failure

end Grammar

end FieldAudit.Source
