import FieldAudit.Entries
import FieldAudit.Files.Route
import FieldAudit.Source.Glyph

/-!
# Directory trees

Files and directories below a top directory, and what happens when a path leads nowhere.
-/

namespace FieldAudit.Files

/-- A file or a directory. Of two children of one name the first one counts. -/
inductive Entry where
  | file (content : List UInt8)
  | dir (children : List (String × Entry))
deriving Inhabited

/-- Why a path cannot be used. -/
inductive PathError where
  | notFound
  | exists
  | notDirectory
  | isDirectory
  | notText
deriving DecidableEq, Inhabited

/-- The description of an error. -/
def PathError.message : PathError → String
  | notFound => "No such file or directory (os error 2)"
  | .exists => "File exists (os error 17)"
  | notDirectory => "Not a directory (os error 20)"
  | isDirectory => "Is a directory (os error 21)"
  | notText => "stream did not contain valid UTF-8"

namespace Entry

/-- Whether an entry is a directory. -/
def isDir : Entry → Bool
  | file _ => false
  | dir _ => true

/-- The entry of a name in a directory. -/
def child? (e : Entry) (name : String) : Option Entry :=
  match e with
  | file _ => none
  | dir children => Entries.find? name children

/-- The entry below a list of names. -/
def get? (e : Entry) : List String → Option Entry
  | [] => some e
  | name :: rest => (e.child? name).bind fun c => c.get? rest

/-- The tree with an entry below a list of names. Missing directories are made; a file on the way
    becomes a directory. -/
def put (e : Entry) (entry : Entry) : List String → Entry
  | [] => entry
  | name :: rest =>
    let inner := ((e.child? name).getD (dir [])).put entry rest
    match e with
    | file _ => dir [(name, inner)]
    | dir children => dir (Entries.put name inner children)

/-- The names from the top to where steps lead from a place. Every step starts at a directory. -/
def locateFrom (top : Entry) : List String → Route → Except PathError (List String)
  | place, [] => .ok place
  | place, step :: rest =>
    match top.get? place with
    | none => .error .notFound
    | some (file _) => .error .notDirectory
    | some (dir children) => match step with
      | .here => locateFrom top place rest
      | .up => locateFrom top place.dropLast rest
      | .down name =>
        if (Entries.find? name children).isSome then locateFrom top (place ++ [name]) rest
        else .error .notFound

/-- The names from the top to where a path leads. -/
def locate (top : Entry) (path : Route) : Except PathError (List String) := top.locateFrom [] path

/-- The entry that a path leads to. -/
def find (top : Entry) (path : Route) : Except PathError Entry := do
  match top.get? (← top.locate path) with
  | some entry => .ok entry
  | none => .error .notFound

/-- The content of the file that a path leads to. -/
def readBytes (top : Entry) (path : Route) : Except PathError (List UInt8) := do
  match ← top.find path with
  | file content => .ok content
  | dir _ => .error .isDirectory

/-- The text of the file that a path leads to. -/
def readText (top : Entry) (path : Route) : Except PathError (List Char) := do
  match Source.chars? (← top.readBytes path) with
  | some text => .ok text
  | none => .error .notText

/-- Whether a path leads to a file. -/
def isFile (top : Entry) (path : Route) : Bool :=
  match top.find path with
  | .ok (file _) => true
  | _ => false

/-- Makes one directory. Its own directory has to be there. -/
def makeDir (top : Entry) (path : Route) : Except PathError Entry := do
  let parent ← top.locate path.parent
  match top.get? parent, path.fileName? with
  | some (dir children), some name =>
    if (Entries.find? name children).isSome then .error .exists
    else .ok (top.put (dir []) (parent ++ [name]))
  | some (dir _), none => .error .exists
  | _, _ => .error .notDirectory

/-- Makes the directories of a path, given by its steps from the last one back. Those that are there
    already are left. -/
def makeDirsBack (top : Entry) : List Step → Except PathError Entry
  | [] => .ok top
  | last :: before =>
    let path := (last :: before).reverse
    let unlessThere (tree : Entry) (e : PathError) : Except PathError Entry :=
      match tree.find path with
      | .ok (dir _) => .ok tree
      | _ => .error e
    match top.makeDir path with
    | .ok made => .ok made
    | .error .notFound => do
      let tree ← top.makeDirsBack before
      match tree.makeDir path with
      | .ok made => .ok made
      | .error e => unlessThere tree e
    | .error e => unlessThere top e

/-- Makes the directories of a path. -/
def makeDirs (top : Entry) (path : Route) : Except PathError Entry :=
  top.makeDirsBack path.moves.reverse

/-- Writes a file. Its directory has to be there, and the path has to end in a name. -/
def write (top : Entry) (path : Route) (content : List UInt8) : Except PathError Entry := do
  match path.getLast? with
  | some (.down name) =>
    let parent ← top.locate path.dropLast
    match top.get? parent with
    | some (dir children) => match Entries.find? name children with
      | some (dir _) => .error .isDirectory
      | _ => .ok (top.put (file content) (parent ++ [name]))
    | _ => .error .notDirectory
  | _ =>
    let _ ← top.locate path.parent
    .error .isDirectory

end Entry

end FieldAudit.Files
