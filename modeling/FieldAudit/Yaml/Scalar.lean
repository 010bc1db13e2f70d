import FieldAudit.Yaml.Cell

/-!
# Scalars

Texts in their five styles: plain, between single or double quotes, and as a block that keeps or
folds its lines. In all but the first kind of block a single line break between two lines of text
counts as a blank, and each further one as itself.
-/

namespace FieldAudit.Yaml

/-- The style of a scalar, as far as it matters. -/
inductive Style where
  | plain
  | quoted
  | literal
  | folded
deriving DecidableEq, Inhabited

/-- A text that is being read, from its end, with the blanks and line breaks after it. -/
structure Folded where
  text : List Char := []
  /-- Blanks on the same line. -/
  blanks : List Char := []
  /-- The first line break. -/
  first : Option Char := none
  /-- Further line breaks. -/
  more : List Char := []
  /-- A line break was left out, so that blanks after it have no meaning. -/
  joined : Bool := false

namespace Folded

/-- Whether a line break came after the text. -/
def broken (f : Folded) : Bool := f.first.isSome || f.joined

/-- Whether anything came after the text. -/
def paused (f : Folded) : Bool := f.broken || !f.blanks.isEmpty

/-- One more blank. Blanks at the start of a line are left out. -/
def blank (f : Folded) (c : Char) : Folded :=
  if f.broken then f else { f with blanks := c :: f.blanks }

/-- One more line break. Blanks at the end of a line are left out. -/
def lineBreak (f : Folded) (c : Char) : Folded :=
  if f.broken then { f with more := c :: f.more } else { f with first := some c, blanks := [] }

/-- The text with what came after it. -/
def settle (f : Folded) : List Char :=
  if f.joined then f.more ++ f.text
  else match f.first with
    | none => f.blanks ++ f.text
    | some '\n' => if f.more.isEmpty then ' ' :: f.text else f.more ++ f.text
    | some c => f.more ++ c :: f.text

/-- One more character of text. -/
def push (f : Folded) (c : Char) : Folded := { text := c :: f.settle }

/-- The text alone. -/
def done (f : Folded) : String := .ofList f.text.reverse

end Folded

/-- What ends a plain scalar inside of brackets. -/
def isFlowSign (c : Char) : Bool := c == ',' || c == '[' || c == ']' || c == '\x7b' || c == '\x7d'

/-- Reads the rest of a plain scalar. `indent` is the least column of its further lines. The result
    tells whether a line break stands after the text. -/
def plainFrom (flow : Bool) (indent : Int) (start : Mark) (f : Folded) :
    List Cell → Except Problem (String × Bool × List Cell)
  | [] => .ok (f.done, f.broken, [])
  | cell :: rest =>
    let c := cell.char
    let stop := .ok (f.done, f.broken, cell :: rest)
    if c == endMark then stop
    else if isBlank c then
      if f.broken && (cell.mark.column : Int) < indent && c == '\t' then
        refuse .tabInPlain .plainScalar start (cell :: rest)
      else plainFrom flow indent start (f.blank c) rest
    else if isBreak c then plainFrom flow indent start (f.lineBreak c) rest
    else if f.paused && ((!flow && (cell.mark.column : Int) < indent && f.broken)
        || atDocumentMark (cell :: rest) || c == '#') then stop
    else if flow && c == ':' && (isFlowSign (head rest) || head rest == '?') then
      refuse .strayColon .plainScalar start (cell :: rest)
    else if (c == ':' && endsWord (head rest)) || (flow && isFlowSign c) then stop
    else plainFrom flow indent start (f.push c) rest

/-- The value of a hexadecimal digit. -/
def hexDigit? (c : Char) : Option Nat :=
  if c.isDigit then some (c.toNat - 48)
  else if 'a' ≤ c ∧ c ≤ 'f' then some (c.toNat - 87)
  else if 'A' ≤ c ∧ c ≤ 'F' then some (c.toNat - 55)
  else none

/-- The value of a number of hexadecimal digits. -/
def hexValue? (digits : List Char) : Option Nat :=
  digits.foldlM (fun n c => (hexDigit? c).map (16 * n + ·)) 0

/-- The number of hexadecimal digits after an escape. -/
def escapeDigits : Char → Nat
  | 'x' => 2
  | 'u' => 4
  | 'U' => 8
  | _ => 0

/-- The character of an escape without digits. -/
def escape? : Char → Option Char
  | '0' => some '\x00'
  | 'a' => some '\x07'
  | 'b' => some '\x08'
  | 't' | '\t' => some '\t'
  | 'n' => some '\n'
  | 'v' => some '\x0b'
  | 'f' => some '\x0c'
  | 'r' => some '\r'
  | 'e' => some '\x1b'
  | ' ' => some ' '
  | '"' => some '"'
  | '/' => some '/'
  | '\\' => some '\\'
  | 'N' => some (Char.ofNat 0x85)
  | '_' => some (Char.ofNat 0xa0)
  | 'L' => some (Char.ofNat 0x2028)
  | 'P' => some (Char.ofNat 0x2029)
  | _ => none

/-- The character of an escape that begins with a backslash, and the number of digits behind its
    second character. -/
def escaped (start : Mark) (backslash : Cell) (second : Cell) (rest : List Cell) :
    Except Problem (Char × Nat) :=
  match escapeDigits second.char with
  | 0 => match escape? second.char with
    | some c => .ok (c, 0)
    | none => refuse .unknownEscape .escape start [backslash]
  | count => match hexValue? ((rest.take count).map Cell.char) with
    | none => refuse .noDigits .escape start rest
    | some n =>
      if n.isValidChar then .ok (Char.ofNat n, count) else refuse .badCodePoint .escape start rest

/-- Reads the rest of a text between double quotes. -/
def doubleFrom (start : Mark) (f : Folded) (cells : List Cell) :
    Except Problem (String × List Cell) :=
  match cells with
  | [] => refuse .endOfText .quotedScalar start []
  | cell :: rest =>
    let c := cell.char
    if atDocumentMark (cell :: rest) then
      refuse .strayDocumentMark .quotedScalar start (cell :: rest)
    else if c == endMark then refuse .endOfText .quotedScalar start (cell :: rest)
    else if c == '"' then .ok (String.ofList f.settle.reverse, rest)
    else if isBlank c then doubleFrom start (f.blank c) rest
    else if isBreak c then doubleFrom start (f.lineBreak c) rest
    else if c == '\\' then
      match rest with
      | [] => refuse .unknownEscape .escape start [cell]
      | next :: rest =>
        if isBreak next.char then doubleFrom start { text := f.settle, joined := true } rest
        else match escaped start cell next rest with
          | .error p => .error p
          | .ok (char, count) => doubleFrom start (f.push char) (rest.drop count)
    else doubleFrom start (f.push c) rest
termination_by cells.length
decreasing_by all_goals (simp only [List.length_cons, List.length_drop]; omega)

/-- Reads the rest of a text between single quotes, where two quotes stand for one. -/
def singleFrom (start : Mark) (f : Folded) (cells : List Cell) :
    Except Problem (String × List Cell) :=
  match cells with
  | [] => refuse .endOfText .quotedScalar start []
  | cell :: rest =>
    let c := cell.char
    if atDocumentMark (cell :: rest) then
      refuse .strayDocumentMark .quotedScalar start (cell :: rest)
    else if c == endMark then refuse .endOfText .quotedScalar start (cell :: rest)
    else if c == '\'' then
      if head rest == '\'' then singleFrom start (f.push c) rest.tail
      else .ok (String.ofList f.settle.reverse, rest)
    else if isBlank c then singleFrom start (f.blank c) rest
    else if isBreak c then singleFrom start (f.lineBreak c) rest
    else singleFrom start (f.push c) rest
termination_by cells.length
decreasing_by all_goals (simp only [List.length_cons, List.length_tail]; omega)

/-- What becomes of the line breaks at the end of a block. -/
inductive Chomp where
  | strip
  | clip
  | keep
deriving DecidableEq

/-- What a sign in the header of a block says about its last line breaks. -/
def Chomp.ofSign? (c : Char) : Option Chomp :=
  if c == '+' then some .keep else if c == '-' then some .strip else none

/-- The indentation in the header of a block, which may not be zero. -/
def depth? (start : Mark) (cells : List Cell) : Except Problem (Option Nat) :=
  let c := head cells
  if c == '0' then refuse .zeroIndentation .blockScalar start cells
  else if c.isDigit then .ok (some (c.toNat - 48))
  else .ok none

/-- The header of a block: what becomes of its last line breaks, and how far it is indented, if the
    header tells. They stand in any order. -/
def blockHeader (start : Mark) (cells : List Cell) :
    Except Problem (Chomp × Option Nat × List Cell) := do
  match Chomp.ofSign? (head cells) with
  | some chomp =>
    let depth ← depth? start cells.tail
    return (chomp, depth, cells.tail.drop (if depth.isSome then 1 else 0))
  | none => match ← depth? start cells with
    | none => return (.clip, none, cells)
    | some depth => match Chomp.ofSign? (second cells) with
      | some chomp => return (chomp, some depth, cells.drop 2)
      | none => return (.clip, some depth, cells.drop 1)

/-- The rest of a line that holds nothing but a comment; the line break is taken. -/
def restOfLine (activity : Activity) (start : Mark) (cells : List Cell) :
    Except Problem (List Cell) :=
  let rest := cells.dropWhile (isBlank ·.char)
  let rest := if head rest == '#' then rest.dropWhile (!endsLine ·.char) else rest
  if head rest == endMark then .ok rest
  else if isBreak (head rest) then .ok rest.tail
  else refuse .noCommentOrBreak activity start rest

/-- Skips the indentation of a block and empty lines. The result has the line breaks, the last one
    first, and the greatest column that was reached. A tab may not stand for indentation. -/
def blockBreaks (start : Mark) (indent : Option Nat) (breaks : List Char) (reached : Nat) :
    List Cell → Except Problem (List Char × Nat × List Cell)
  | [] => .ok (breaks, reached, [])
  | cell :: rest =>
    let inside := indent.all (cell.mark.column < ·)
    if inside && cell.char == ' ' then blockBreaks start indent breaks reached rest
    else
      let reached := max reached cell.mark.column
      if inside && cell.char == '\t' then refuse .tabInBlock .blockScalar start (cell :: rest)
      else if isBreak cell.char then blockBreaks start indent (cell.char :: breaks) reached rest
      else .ok (breaks, reached, cell :: rest)

/-- Reads the lines of a block at an indentation. `text`, `lead` and `breaks` are from the end: what
    was read, the break of the last line and the empty lines after it; `blank` tells whether the last
    line begins with a blank. There are at most `n` lines. -/
def blockLines (folded : Bool) (start : Mark) (indent : Nat) :
    Nat → (text lead breaks : List Char) → (blank : Bool) → List Cell →
    Except Problem (List Char × List Char × List Char × List Cell)
  | 0, text, lead, breaks, _, cells => .ok (text, lead, breaks, cells)
  | n + 1, text, lead, breaks, blank, cells =>
    if (place cells).column = indent ∧ head cells ≠ endMark then
      let starts := isBlank (head cells)
      let joined :=
        if folded && lead == ['\n'] && !blank && !starts then
          if breaks.isEmpty then ' ' :: text else text
        else lead ++ text
      let line := (cells.takeWhile (!endsLine ·.char)).map Cell.char
      let rest := cells.dropWhile (!endsLine ·.char)
      let (lead, rest) := if isBreak (head rest) then ([head rest], rest.tail) else ([], rest)
      match blockBreaks start (some indent) [] 0 rest with
      | .error p => .error p
      | .ok (more, _, rest) =>
        blockLines folded start indent n (line.reverse ++ (breaks ++ joined)) lead more starts rest
    else .ok (text, lead, breaks, cells)

/-- Reads a block. `parent` is the column of what holds the block. -/
def block (folded : Bool) (parent : Int) (cells : List Cell) :
    Except Problem (String × List Cell) := do
  let start := place cells
  let (chomp, depth, rest) ← blockHeader start cells.tail
  let rest ← restOfLine .blockScalar start rest
  let base : Nat := parent.toNat
  let fixed := depth.map fun d => if 0 ≤ parent then base + d else d
  let (breaks, reached, rest) ← blockBreaks start fixed [] 0 rest
  let indent := fixed.getD (max (max reached (parent + 1).toNat) 1)
  let (text, lead, breaks, rest) ←
    blockLines folded start indent (rest.length + 1) [] [] breaks false rest
  let text := if chomp = .strip then text else lead ++ text
  let text := if chomp = .keep then breaks ++ text else text
  return (.ofList text.reverse, rest)

end FieldAudit.Yaml
