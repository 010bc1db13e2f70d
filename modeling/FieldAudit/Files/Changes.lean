import FieldAudit.Files.Tree

/-!
# Changes of a tree

The files of a tree with their places, and those that one tree has and another one lacks.
-/

namespace FieldAudit.Files.Entry

mutual

/-- The files of an entry at a place, each with its own place. -/
def filesAt (place : List String) : Entry → List (List String × List UInt8)
  | file content => [(place, content)]
  | dir children => filesIn place children

/-- The files among the children of a directory at a place. -/
def filesIn (place : List String) : List (String × Entry) → List (List String × List UInt8)
  | [] => []
  | (name, entry) :: rest => filesAt (place ++ [name]) entry ++ filesIn place rest

end

/-- The files of a tree with their places. -/
def files (e : Entry) : List (List String × List UInt8) := e.filesAt []

/-- The content of the file at a place. -/
def content? (e : Entry) (place : List String) : Option (List UInt8) :=
  match e.get? place with
  | some (file content) => some content
  | _ => none

/-- The files of a tree that are new or have another content than in the tree before. -/
def changesSince (after before : Entry) : List (List String × List UInt8) :=
  after.files.filter fun (place, content) => before.content? place != some content

end FieldAudit.Files.Entry
