import FieldAudit.Files.Collect
import FieldAudit.Source.File
import FieldAudit.Types.Resolve

/-!
# Programs

The files of a run with the types that they declare. Files that cannot be read are left out; the
others stand in the order of their paths, and each directory is a package.
-/

namespace FieldAudit

open Files

/-- A file of a program. -/
structure ProgramFile where
  /-- The path below the root. -/
  path : String
  /-- The directory below the root, which names the package. -/
  packageDir : String
  source : SourceFile
deriving Inhabited

/-- The files of a run with their types. -/
structure Program where
  files : List ProgramFile := []
  table : TypeTable := {}
  resolver : Resolver := {}
deriving Inhabited

/-- How the content of a file is read, given the moves that lead to it; files without a result are not
    part of a program. -/
abbrev FileReader := Route → List UInt8 → Option SourceFile

namespace Program

/-- The scope of a file. -/
def scope (p : Program) (file : ProgramFile) : Scope :=
  { resolver := p.resolver, packageDir := file.packageDir, imports := file.source.imports }

/-- The path of the module that a module file declares. -/
def declaredModule? (text : List Char) : Option String :=
  ((Text.lines text).findSome? fun line =>
    Text.afterStart? "module ".toList (Text.trim line)).map fun rest =>
      .ofList (Text.trimEndBy (· == '"') (Text.trimStartBy (· == '"') (Text.trim rest)))

/-- The path by which a directory `n` steps along a path is imported, if it holds a module file; the
    remaining steps follow. -/
def moduleAt? (top : Entry) (base : Route) (n : Nat) : Option String :=
  (top.readText (base.take n ++ [.down "go.mod"])).toOption.bind fun text =>
    (declaredModule? text).map fun module =>
      let offset := Route.toText (base.drop n)
      if offset.isEmpty then module else module ++ "/" ++ offset

/-- The module path of a directory, from the nearest module file at or above it. -/
def modulePath? (top : Entry) (base : Route) : Option String :=
  (List.range (base.moves.length + 1)).reverse.findSome? (moduleAt? top base.moves)

/-- Reads the content of the file to which a path leads, if it is a source file without errors. -/
def readSource : FileReader := fun path content =>
  if path.extension? = some "go" then (Source.read content).toOption else none

/-- Reads a file below the root, if that can be read. -/
def readFile? (read : FileReader) (top : Entry) (base path : Route) : Option ProgramFile :=
  (top.readBytes (base ++ path)).toOption.bind fun content =>
    (read (base ++ path).moves content).map fun source =>
      { path := path.toText, packageDir := path.parent.toText, source }

/-- The types that files declare; a later declaration of a name replaces an earlier one. -/
def declare (resolver : Resolver) (files : List ProgramFile) : TypeTable :=
  files.foldl (fun table file =>
    Scope.declareAll { resolver, packageDir := file.packageDir, imports := file.source.imports }
      file.source.types table) {}

/-- Loads files, given by their paths below the root. -/
def load (read : FileReader) (top : Entry) (base : Route) (paths : List Route) : Program :=
  let sorted := paths.mergeSort fun a b => a.moves.le b.moves
  let files := sorted.filterMap (readFile? read top base)
  let resolver : Resolver := .ofDirs (modulePath? top base) (files.map (·.packageDir))
  { files, resolver, table := declare resolver files }

end Program

end FieldAudit
