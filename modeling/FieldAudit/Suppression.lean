import FieldAudit.Syntax.Basic
import FieldAudit.Text.Word

/-!
# Suppressing findings

A line of a doc comment may be a directive that silences the findings on its function, either one of
this program's own, with a reason after a dash, or a general one that lists the silenced linters.
-/

namespace FieldAudit.Suppression

open Text

/-- What follows the dash of a directive: a reason of one line. -/
def reason? (rest : List Char) : Option String :=
  let reason := trimStartBy isBlank rest
  if '\n' ∈ reason then none else some (.ofList (trim reason))

/-- The reason of a directive of this program's own, empty if it gives none. -/
def ownDirective? (line : List Char) : Option String :=
  (afterStart? "lostfield:ignore".toList (trimStartBy isBlank line)).bind fun rest =>
    if rest.head?.any isWord then none
    else match trimStartBy isBlank rest with
      | [] => some ""
      | '-' :: reason => reason? reason
      | _ => none

/-- Whether a text is empty or a comment of one line. -/
def isRemark (s : List Char) : Bool :=
  s.isEmpty || (startsWith (trimStartBy isBlank s) ['/', '/'] && !(trimStartBy isBlank s).contains '\n')

/-- Whether a character may stand in a list of linters. -/
def isListed (c : Char) : Bool := isWord c || c == ',' || c == '-' || isBlank c

/-- Whether a list of linters names this one. -/
def names (linters : List Char) : Bool :=
  ((splitAt ',' linters).map trim).any fun l => l == "lostfield".toList || l == "all".toList

/-- The reason of a general directive, empty if it lists no linters. -/
def generalDirective? (line : List Char) : Option String :=
  (afterStart? "nolint".toList (trimStartBy isBlank line)).bind fun rest =>
    if isRemark rest then some ""
    else match rest with
      | ':' :: rest =>
        let linters := rest.takeWhile isListed
        if !linters.isEmpty && isRemark (rest.dropWhile isListed) && names linters then some "nolint"
        else none
      | _ => none

/-- The reason that a line gives for a suppression. -/
def ofLine (line : String) : Option String :=
  (ownDirective? line.toList).or (generalDirective? line.toList)

end FieldAudit.Suppression

namespace FieldAudit

/-- The reason of the first directive in the doc comment of a function. -/
def FuncDecl.suppression? (decl : FuncDecl) : Option String := decl.doc.findSome? Suppression.ofLine

end FieldAudit
