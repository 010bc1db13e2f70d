import FieldAudit.Syntax.TypeExpr

/-!
# Function bodies

The statements and expressions of a function body, and the declarations of a source file. Blocks are
lists of statements; comments and empty statements do not occur.
-/

namespace FieldAudit

/-- An element of a composite literal, over a notion `ε` of expression. -/
inductive Element (ε : Type) where
  /-- A value without a key. -/
  | positional (value : ε)
  /-- A value under a bare identifier, as in `T{Name: value}`. -/
  | field (name : String) (value : ε)
  /-- A value under any other key, as in `map[K]V{key: value}`. -/
  | keyed (key value : ε)
deriving Inhabited

/-- The value of an element. -/
def Element.value {ε : Type} : Element ε → ε
  | positional v => v
  | field _ v => v
  | keyed _ v => v

/-- How an assignment treats its targets. -/
inductive AssignOp where
  /-- `:=` -/
  | define
  /-- `=` -/
  | assign
  /-- `+=`, `|=` and the like. -/
  | compound
deriving DecidableEq, Inhabited

/-- A `case` or `default` clause, over notions of expression and statement. -/
structure Clause (ε σ : Type) where
  exprs : List ε
  body : List σ
deriving Inhabited

mutual

/-- An expression. -/
inductive Expr where
  | ident (name : String)
  | selector (base : Expr) (field : String)
  | call (callee : Expr) (args : List Expr)
  /-- `base[i]` and `base[i:j:k]` with the operands that are present. -/
  | index (base : Expr) (operands : List Expr)
  | unary (op : String) (operand : Expr)
  | binary (op : String) (left right : Expr)
  | paren (inner : Expr)
  /-- `T{...}`; the type is left out in nested literals. -/
  | composite (type : Option TypeExpr) (elements : List (Element Expr))
  | funcLit (body : List Stmt)
  | assert (base : Expr) (type : Option TypeExpr)
  /-- A type where a value is expected, as in `make([]T, n)`. -/
  | type (type : TypeExpr)
  | literal (text : String)
  | other

/-- A statement. -/
inductive Stmt where
  | expr (value : Expr)
  | assign (targets : List Expr) (op : AssignOp) (values : List Expr)
  | var (names : List String) (type : Option TypeExpr) (values : List Expr)
  | ret (values : List Expr)
  | block (body : List Stmt)
  | cond (init : Option Stmt) (test : Expr) (body : List Stmt) (otherwise : Option Stmt)
  | loop (init : Option Stmt) (test : Option Expr) (post : Option Stmt) (body : List Stmt)
  | range (key value : Option Expr) (define : Bool) (subject : Expr) (body : List Stmt)
  | switch (init : Option Stmt) (tag : Option Expr) (clauses : List (Clause Expr Stmt))
  | go (call : Expr)
  | defer (call : Expr)
  | incDec (operand : Expr)
  | send (channel value : Expr)
  | labeled (stmt : Stmt)
  | other

end

/-- A braced list of statements. -/
abbrev Block := List Stmt

namespace Expr

instance : Inhabited Expr := ⟨.other⟩

/-- The expression inside any number of parentheses. -/
def unparen : Expr → Expr
  | paren e => e.unparen
  | e => e

/-- The name of a bare identifier. -/
def ident? : Expr → Option String
  | ident name => some name
  | _ => none

/-- The expression inside parentheses and at most one address-of operator. -/
def unaddress (e : Expr) : Expr :=
  match e.unparen with
  | unary "&" operand => operand.unparen
  | inner => inner

end Expr

instance : Inhabited Stmt := ⟨.other⟩

/-- A parameter, a result or a receiver. -/
structure Param where
  name : Option String
  type : TypeExpr
deriving Inhabited

/-- A place in a file: bytes and lines count from zero, columns count bytes from zero. -/
structure Position where
  byte : Nat := 0
  row : Nat := 0
  column : Nat := 0
deriving DecidableEq, Inhabited

/-- A stretch of a file, its end excluded. -/
structure Span where
  start : Position := {}
  stop : Position := {}
deriving DecidableEq, Inhabited

/-- A function or method declaration. -/
structure FuncDecl where
  name : String
  receiver : Option Param := none
  typeParams : List String := []
  /-- One entry for each declared name. -/
  params : List Param := []
  /-- One entry for each declared name, or for each type when results are unnamed. -/
  results : List Param := []
  body : Option Block := none
  span : Span := {}
  nameSpan : Span := {}
  /-- The lines of the doc comment, without comment markers. -/
  doc : List String := []
deriving Inhabited

/-- Whether the declaration has a receiver. -/
def FuncDecl.isMethod (decl : FuncDecl) : Bool := decl.receiver.isSome

/-- `Receiver.Name` for a method on a named type, else the name alone. -/
def FuncDecl.qualifiedName (decl : FuncDecl) : String :=
  match decl.receiver.bind (·.type.baseName?) with
  | some receiver => receiver ++ "." ++ decl.name
  | none => decl.name

/-- A declaration `type A B` or `type A = B`. -/
structure TypeDecl where
  name : String
  /-- Written with `=`. -/
  isAlias : Bool := false
  /-- Declared with type parameters. -/
  generic : Bool := false
  type : TypeExpr
  span : Span := {}
deriving Inhabited

/-- An import of a package. -/
structure Import where
  path : String
  /-- The explicit name, `_` and `.` included. -/
  explicit : Option String := none
deriving DecidableEq, Inhabited

/-- Whether a path segment is a major version such as `v2`. -/
def Import.isVersion (segment : String) : Bool :=
  match segment.toList with
  | 'v' :: d :: digits => (d :: digits).all Char.isDigit
  | _ => false

/-- The name by which the file refers to the package: its alias, else the last segment of the path,
    where a trailing version segment is skipped if another one stands before it. -/
def Import.localName (i : Import) : String :=
  match i.explicit with
  | some name => name
  | none =>
    match (i.path.splitOn "/").reverse with
    | last :: before :: _ => if isVersion last then before else last
    | [last] => last
    | [] => i.path

/-- What is known of one source file. -/
structure SourceFile where
  package : String
  imports : List Import := []
  types : List TypeDecl := []
  functions : List FuncDecl := []
  /-- The header says that the file is generated. -/
  generated : Bool := false
deriving Inhabited

end FieldAudit
