import FieldAudit.Source.Grammar.Statements

/-!
# Reading a file

The declarations of a file in order, with the comments between them, and what is kept of them.
-/

namespace FieldAudit.Source

/-- A declaration or statement at the top of a file. -/
inductive Decl where
  | package (name : String)
  | imports (imports : List Import)
  | types (types : List TypeDecl)
  | function (decl : FuncDecl)
  | other

open Reader

namespace Grammar

variable (g : Grammar)

/-- An import; only a path between double quotes counts. -/
def importSpec : Reader (Option Import) := do
  let t ← peek
  let explicit ←
    if t.kind == .word || t.isSymbol "." then pure (some (← take).text) else pure none
  let path ← take
  guard (path.kind == .quoted || path.kind == .raw)
  if path.kind == .raw then return none
  let bare := Text.trimEndBy (· == '"') (Text.trimStartBy (· == '"') path.text.toList)
  return some { path := .ofList bare, explicit }

/-- Imports after their first word. Between parentheses the last one may do without an end. -/
def imports : Reader (List Import) := do
  if ← accept "(" then
    let found ← many do
      if ← sees ")" then return none
      let spec ← importSpec
      unless ← sees ")" do terminator
      return some spec
    expect ")"
    return found.filterMap id
  else return (← importSpec).toList

/-- The rest of a function after its name. A body has to begin on the row where the header ends. -/
def functionAfter (start : Position) (receiver : Option Param) (name : Token)
    (typeParams : List String) : Reader Decl := do
  let params ← g.params
  let results ← g.results .statement
  let next ← peek
  let body ←
    if next.isSymbol "\x7b" && !next.newline then some <$> g.block else pure none
  let stop := (← peek).before
  return .function
    { name := name.text, receiver, typeParams, params, results, body, span := ⟨start, stop⟩
      nameSpan := name.span }

/-- A function or method. -/
def function : Reader Decl := do
  let start := (← peek).span.start
  expectWord "func"
  if ← sees "(" then
    let receiver ← g.params
    g.functionAfter start receiver.head? (← word) []
  else
    let name ← word
    let typeParams ← if ← sees "[" then g.typeParams else pure []
    g.functionAfter start none name typeParams

/-- A declaration or statement at the top of a file. -/
def decl : Reader Decl := do
  let t ← peek
  let statement : Reader Decl := do
    let _ ← g.stmt
    return .other
  if t.kind != .word then statement
  else match t.text with
    | "package" =>
      let _ ← take
      return .package (← word).text
    | "import" =>
      let _ ← take
      return .imports (← imports)
    | "type" =>
      let _ ← take
      return .types (← specs g.typeSpec)
    | "func" => orTry g.function statement
    | _ => statement

/-- The declarations of a file, and the comments between them. The last one may do without an end. -/
def decls : Reader (List (Item Decl)) := do
  let items ← many do
    let t ← peek
    if t.kind == .stop then return none
    let content ← g.decl
    let stop ← peek
    unless stop.kind == .stop do terminator
    let after := if stop.newline then [] else stop.comments.map Item.comment
    return some (t.comments.map Item.comment ++
      .node t.span.start.row stop.before.row content :: after)
  return items.flatten

end Grammar

/-- The declarations of a file from its tokens. No part nests deeper than twice the number of tokens:
    a statement and its first expression may begin at the same token. -/
def parseDecls (tokens : List Token) : Option (List (Item Decl)) :=
  ((Grammar.upTo (2 * tokens.length + 4)).decls tokens).map (·.1)

/-- Imports with a path, only the first of each path. -/
def distinctImports (imports : List Import) : List Import :=
  imports.foldl (fun kept i =>
    if i.path.isEmpty || kept.any (·.path == i.path) then kept else kept ++ [i]) []

/-- Whether a line says that its file is generated. -/
def isGeneratedLine (line : List Char) : Bool :=
  let head := "// Code generated ".toList
  let tail := " DO NOT EDIT.".toList
  Text.startsWith line head && Text.endsWith (line.drop head.length) tail

/-- Whether a file is marked as generated before its package clause. -/
def isGenerated (bytes : List UInt8) : Bool :=
  (chars? bytes).any fun text =>
    (((Text.lines text).map Text.trimEnd).takeWhile fun line =>
      !Text.startsWith line "package ".toList).any isGeneratedLine

/-- Why there is no reading of a file. -/
inductive ReadError where
  | malformed
  | noPackage
deriving DecidableEq

/-- The message of an error, for the file of a path. -/
def ReadError.message (path : String) : ReadError → String
  | .malformed => "syntax errors: " ++ path
  | .noPackage => "missing package clause: " ++ path

/-- What is kept of the declarations of a file. -/
def collect (generated : Bool) (items : List (Item Decl)) : Except ReadError SourceFile :=
  let decls := document items
  match decls.findSome? fun
    | (.package name, _) => some name
    | _ => none with
  | none => .error .noPackage
  | some package => .ok
    { package, generated
      imports := distinctImports (decls.flatMap fun
        | (.imports is, _) => is
        | _ => [])
      types := decls.flatMap fun
        | (.types ts, _) => ts
        | _ => []
      functions := decls.filterMap fun
        | (.function f, doc) => some { f with doc }
        | _ => none }

/-- Reads a file. -/
def read (bytes : List UInt8) : Except ReadError SourceFile :=
  match (tokens bytes).bind parseDecls with
  | none => .error .malformed
  | some items => collect (isGenerated bytes) items

end FieldAudit.Source
