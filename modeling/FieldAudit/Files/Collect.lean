import FieldAudit.Files.Tree
import FieldAudit.Pattern
import FieldAudit.Settings.Basic

/-!
# Collecting source files

The source files of a directory tree: not tests, not excluded by the settings, and not below a
directory that is hidden or holds foreign code. The directory where the search starts may have any
name.
-/

namespace FieldAudit.Files

/-- Whether a name is that of a source file and not of a test. -/
def isSourceName (name : String) : Bool :=
  Text.endsWith name.toList ".go".toList && !Text.endsWith name.toList "_test.go".toList

/-- The names of directories that hold no code of the program itself. -/
def foreignDirs : List String := ["vendor", "testdata", "node_modules"]

/-- Whether a directory of this name is left out. -/
def skipsDir (name : String) : Bool :=
  name.toList.head? == some '.' || name.toList.head? == some '_' || foreignDirs.contains name

/-- Whether a file of this name, at a path below the root, is a source file that is not excluded. -/
def accepts (settings : Settings) (name path : String) : Bool :=
  isSourceName name && !Pattern.matchesAny settings.excludeFiles path

mutual

/-- The places of the accepted files in an entry at a place, those of a directory in the order of the
    names of its children. -/
def collectAt (accepted : List String → Bool) (place : List String) : Entry → List (List String)
  | .file _ => if accepted place then [place] else []
  | .dir children => (collectIn accepted place children).flatMap (·.2)

/-- The places of the accepted files in each of the children of a directory, sorted by its name. -/
def collectIn (accepted : List String → Bool) (place : List String) :
    List (String × Entry) → List (String × List (List String))
  | [] => []
  | (name, entry) :: rest =>
    Entries.put name
      (if entry.isDir && skipsDir name then [] else collectAt accepted (place ++ [name]) entry)
      (collectIn accepted place rest)

end

/-- The places of the source files below a root of some name. -/
def collect (settings : Settings) (rootName : String) (root : Entry) : List (List String) :=
  collectAt (fun place => accepts settings (place.getLast?.getD rootName) ("/".intercalate place))
    [] root

end FieldAudit.Files
