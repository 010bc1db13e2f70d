import FieldAudit.Syntax.Basic
import FieldAudit.Tag
import FieldAudit.Types.Basic

/-!
# Looking up names of types

A type written in a file is resolved in the scope of that file. Qualified names go through the
imports: an import path is mapped to a package directory by the path of the module where that is
known, otherwise by the longest directory that ends the path.
-/

namespace FieldAudit

/-- The names of the predeclared types. -/
def predeclaredTypes : List String :=
  ["any", "bool", "byte", "comparable", "complex64", "complex128", "error", "float32", "float64",
   "int", "int8", "int16", "int32", "int64", "rune", "string", "uint", "uint8", "uint16", "uint32",
   "uint64", "uintptr"]

/-- The package directories of a program and the path of its module, if known. -/
structure Resolver where
  modulePath : Option String := none
  packageDirs : OrderedSet String := ∅
deriving Inhabited

namespace Resolver

/-- The resolver for a list of package directories. -/
def ofDirs (modulePath : Option String) (dirs : List String) : Resolver :=
  { modulePath, packageDirs := .ofList dirs }

/-- The part of an import path below the module, if that is a package directory. -/
def inModule? (r : Resolver) (path : String) : Option String :=
  r.modulePath.bind fun module =>
    if path = module then some ""
    else ((Text.afterStart? (module.toList ++ ['/']) path.toList).map String.ofList).filter
      (· ∈ r.packageDirs)

/-- Whether a directory makes up the last segments of an import path. -/
def endsPath (path dir : String) : Bool :=
  dir != "" && (path == dir || Text.endsWith path.toList ('/' :: dir.toList))

/-- The longest package directory that ends an import path. -/
def bySuffix? (r : Resolver) (path : String) : Option String :=
  (r.packageDirs.toList.filter (endsPath path)).foldl
    (fun best dir => match best with
      | some b => if b.utf8ByteSize ≤ dir.utf8ByteSize then some dir else some b
      | none => some dir) none

/-- The package of an import path: a package directory, or the path itself. -/
def packageOf (r : Resolver) (path : String) : String :=
  ((r.inModule? path).or (r.bySuffix? path)).getD path

end Resolver

/-- What is needed to look up the types written in a file. -/
structure Scope where
  resolver : Resolver
  packageDir : String
  imports : List Import
deriving Inhabited

namespace Scope

/-- The import path that a local name stands for; of two imports with one name the later counts. -/
def importPath? (s : Scope) (name : String) : Option String :=
  (s.imports.reverse.find? (·.localName = name)).map (·.path)

/-- The type of a name, qualified or not. -/
def resolveName (s : Scope) (package : Option String) (name : String) : Ty :=
  match package with
  | none => if predeclaredTypes.contains name then .basic name else .named ⟨s.packageDir, name⟩
  | some package =>
    if package = "unsafe" ∧ name = "Pointer" then .unsafePointer
    else .named ⟨(s.importPath? package).elim package s.resolver.packageOf, name⟩

mutual

/-- The type that is written. Type arguments are not followed. -/
def resolve (s : Scope) : TypeExpr → Ty
  | .named package name => s.resolveName package name
  | .pointer of => .pointer (s.resolve of)
  | .slice of => .slice (s.resolve of)
  | .array of => .array (s.resolve of)
  | .map key value => .map (s.resolve key) (s.resolve value)
  | .chan of => .chan (s.resolve of)
  | .func => .func
  | .interface => .interface
  | .struct fields => .struct (s.resolveFields fields)
  | .generic _ => .unresolved
  | .other => .unresolved

/-- The fields that are written. -/
def resolveFields (s : Scope) : List (StructField TypeExpr) → List (FieldDef Ty)
  | [] => []
  | field :: fields => s.resolveField field :: s.resolveFields fields

/-- The field that is written. -/
def resolveField (s : Scope) : StructField TypeExpr → FieldDef Ty
  | ⟨name, embedded, type, tag, deprecated⟩ =>
    { name, embedded, deprecated
      exported := isExported name
      tags := tag.elim ∅ Tag.parse
      type := s.resolve type }

end

/-- The definition of a declared type. A generic type has none that could be checked. -/
def definition (s : Scope) (decl : TypeDecl) : Definition :=
  if decl.generic then .type .unresolved
  else match decl.type with
    | .struct fields => .struct (s.resolveFields fields)
    | type => .type (s.resolve type)

/-- The named type of a declaration. -/
def declare (s : Scope) (decl : TypeDecl) : NamedType :=
  { key := ⟨s.packageDir, decl.name⟩, isAlias := decl.isAlias, definition := s.definition decl }

/-- Adds the types declared in a file. -/
def declareAll (s : Scope) (decls : List TypeDecl) (table : TypeTable) : TypeTable :=
  decls.foldl (fun table decl => table.insert (s.declare decl)) table

end Scope

/-- The types of the parameters and results of a function, one for each declared name. -/
structure Signature where
  params : List Ty
  results : List Ty
deriving Inhabited

/-- The signature of a function, unless it has type parameters. -/
def Scope.signature? (s : Scope) (decl : FuncDecl) : Option Signature :=
  if decl.typeParams.isEmpty then
    some { params := decl.params.map (s.resolve ·.type)
           results := decl.results.map (s.resolve ·.type) }
  else none

end FieldAudit
