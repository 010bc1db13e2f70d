import FieldAudit.Yaml.Problem

/-!
# Characters with their places

The text of a document as characters with their lines and columns. The usual line breaks become one;
a NUL character, which no document may hold, marks the end.
-/

namespace FieldAudit.Yaml

/-- A character with its place. -/
structure Cell where
  char : Char
  mark : Mark
deriving DecidableEq, Inhabited

/-- What marks the end of a text. -/
def endMark : Char := '\x00'

/-- Whether a character is a blank or a tab. -/
def isBlank (c : Char) : Bool := c == ' ' || c == '\t'

/-- Whether a character ends a line. -/
def isBreak (c : Char) : Bool := c == '\n' || c.toNat == 0x2028 || c.toNat == 0x2029

/-- Whether a character ends a line or the text. -/
def endsLine (c : Char) : Bool := isBreak c || c == endMark

/-- Whether a character ends a word. -/
def endsWord (c : Char) : Bool := isBlank c || endsLine c

/-- Whether a document may hold a character. -/
def isAllowed (c : Char) : Bool :=
  let n := c.toNat
  n == 0x9 || n == 0xa || n == 0xd || (0x20 ≤ n && n ≤ 0x7e) || n == 0x85
    || (0xa0 ≤ n && n ≤ 0xfffd) || 0x10000 ≤ n

/-- The next line after a character that breaks lines, else the next column. -/
def cellsFrom (line column : Nat) : List Char → List Cell
  | [] => [⟨endMark, line, column⟩]
  | '\r' :: '\n' :: rest => ⟨'\n', line, column⟩ :: cellsFrom (line + 1) 0 rest
  | c :: rest =>
    if c == '\r' || c.toNat == 0x85 then ⟨'\n', line, column⟩ :: cellsFrom (line + 1) 0 rest
    else if isBreak c then ⟨c, line, column⟩ :: cellsFrom (line + 1) 0 rest
    else ⟨c, line, column⟩ :: cellsFrom line (column + 1) rest

/-- Whether a character is a byte-order mark. -/
def isMark (c : Char) : Bool := c.toNat == 0xfeff

/-- The number of bytes of some characters. -/
def byteCount (text : List Char) : Nat := text.foldl (fun n c => n + c.utf8Size) 0

/-- The characters of a text, if it holds only allowed ones. A byte-order mark at its start is
    skipped. -/
def cells (text : List Char) : Except Problem (List Cell) :=
  if text.all isAllowed then
    .ok (cellsFrom 0 0 (if text.head?.any isMark then text.tail else text))
  else .error { fault := .control (byteCount (text.takeWhile isAllowed)), mark := ⟨0, 0⟩ }

/-- The first character. -/
def head (cells : List Cell) : Char := (cells.head?.map Cell.char).getD endMark

/-- The second character. -/
def second (cells : List Cell) : Char := head cells.tail

/-- The place of the first character. -/
def place (cells : List Cell) : Mark := (cells.head?.map Cell.mark).getD ⟨0, 0⟩

/-- Whether a line begins with a mark of three characters that starts or ends a document. -/
def startsWithMark (mark : Char) : List Cell → Bool
  | a :: b :: c :: rest =>
    a.mark.column == 0 && a.char == mark && b.char == mark && c.char == mark && endsWord (head rest)
  | _ => false

/-- Whether a document starts or ends here. -/
def atDocumentMark (cells : List Cell) : Bool := startsWithMark '-' cells || startsWithMark '.' cells

/-- A problem at the first character, with what was being read and where that began. -/
def refuse {α : Type} (fault : Fault) (activity : Activity) (start : Mark) (cells : List Cell) :
    Except Problem α :=
  .error { fault, mark := place cells, activity := some (activity, start) }

end FieldAudit.Yaml
