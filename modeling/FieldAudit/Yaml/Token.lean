import FieldAudit.Yaml.Scalar

/-!
# Tokens of a document

A document is cut into scalars, signs and marks for the blocks that indentation opens and closes. A
scalar or a bracketed collection turns out to be a key only when a colon follows on the same line;
the marks for the key and for the block that it opens are then put before it. Where a text cannot be
cut any further its last token is the problem.
-/

namespace FieldAudit.Yaml

/-- What a token is. -/
inductive TokenKind where
  /-- A version directive, and whether the version is known. -/
  | version (known : Bool)
  /-- A directive that gives a tag handle its meaning. -/
  | handle (name meaning : String)
  | documentStart
  | documentEnd
  | blockSeq
  | blockMap
  | blockEnd
  | flowSeq
  | flowSeqEnd
  | flowMap
  | flowMapEnd
  | entry
  | comma
  | key
  | value
  | reference (name : String)
  | anchor (name : String)
  | tag (handle suffix : String)
  | scalar (style : Style) (text : String)
  | stop
  | broken (p : Problem)
deriving DecidableEq, Inhabited

/-- A token with the places where it starts and stops. -/
structure Token where
  kind : TokenKind
  start : Mark
  stop : Mark
deriving DecidableEq

instance : Inhabited Token := ⟨⟨.stop, default, default⟩⟩

/-- The token of a problem, which ends all tokens. -/
def Problem.token (p : Problem) : Token := ⟨.broken p, p.mark, p.mark⟩

/-- The start of what may turn out to be a key. -/
structure KeyStart where
  /-- The number of tokens before it. -/
  position : Nat
  mark : Mark
  /-- It stands at the indentation of a block of keys and so has to be one. -/
  required : Bool

/-- Where reading stands. -/
structure Scan where
  cells : List Cell
  tokens : List Token := []
  /-- The column of the innermost block, `-1` outside of all blocks. -/
  indent : Int := -1
  /-- The columns of the blocks around it. -/
  outer : List Int := []
  /-- Possible keys, one for each bracket that is open and one outside of all; the innermost
      first. -/
  keys : List (Option KeyStart) := [none]
  /-- A key may start here. -/
  keyAllowed : Bool := true

namespace Scan

/-- Whether a bracket is open. -/
def inFlow (s : Scan) : Bool := 1 < s.keys.length

/-- The number of tokens that nothing is put before any more. -/
def settled (s : Scan) : Nat :=
  s.keys.foldl (fun n key => (key.map fun k => min n k.position).getD n) s.tokens.length

/-- One more token, which goes on to some characters. -/
def emit (s : Scan) (kind : TokenKind) (rest : List Cell) : Scan :=
  { s with cells := rest, tokens := s.tokens ++ [⟨kind, place s.cells, place rest⟩] }

/-- One more token of some characters. -/
def sign (s : Scan) (kind : TokenKind) (length : Nat) : Scan := s.emit kind (s.cells.drop length)

/-- Skips blanks, comments and line breaks. Outside of brackets a line break makes room for a key, and
    a tab may not stand where a key may start. -/
def skipBlanks (flow comment allowed : Bool) : List Cell → Bool × List Cell
  | [] => (allowed, [])
  | cell :: rest =>
    let c := cell.char
    if isBreak c then skipBlanks flow false (allowed || !flow) rest
    else if c == endMark then (allowed, cell :: rest)
    else if comment then skipBlanks flow true allowed rest
    else if c == '#' then skipBlanks flow true allowed rest
    else if c == ' ' || (c == '\t' && (flow || !allowed)) || (isMark c && cell.mark.column == 0) then
      skipBlanks flow false allowed rest
    else (allowed, cell :: rest)

/-- Gives up a possible key at a place. It may not be one that has to be a key. -/
def dropKey (here : Mark) : Option KeyStart → Except Problem (Option KeyStart)
  | some key =>
    if key.required then
      .error { fault := .noColon, mark := here, activity := some (.simpleKey, key.mark) }
    else .ok none
  | none => .ok none

/-- Gives up the possible keys that are not on this line or too far away, the outermost first. -/
def dropStale (s : Scan) : Except Problem Scan := do
  let here := place s.cells
  let keys ← s.keys.reverse.mapM fun key =>
    if key.any fun k => k.mark.line < here.line || k.mark.column + 1024 < here.column then
      dropKey here key
    else .ok key
  return { s with keys := keys.reverse }

/-- Gives up the innermost possible key. -/
def dropCurrent (s : Scan) : Except Problem Scan := do
  match s.keys with
  | key :: rest => return { s with keys := (← dropKey (place s.cells) key) :: rest }
  | [] => return s

/-- Remembers that a key may start here. -/
def noteKey (s : Scan) : Except Problem Scan := do
  if s.keyAllowed then
    let s ← s.dropCurrent
    let here := place s.cells
    let key : KeyStart :=
      { position := s.tokens.length, mark := here
        required := !s.inFlow && s.indent == (here.column : Int) }
    return { s with keys := some key :: s.keys.tail }
  else return s

/-- Puts a token of no length among the others. -/
def insert (s : Scan) (position : Nat) (kind : TokenKind) (mark : Mark) : Scan :=
  { s with tokens := s.tokens.take position ++ ⟨kind, mark, mark⟩ :: s.tokens.drop position }

/-- Opens a block at a place, with its token at a position among the others, unless an open block
    stands there already. -/
def openBlock (s : Scan) (mark : Mark) (position : Nat) (kind : TokenKind) : Scan :=
  if !s.inFlow && s.indent < (mark.column : Int) then
    { s.insert position kind mark with outer := s.indent :: s.outer, indent := mark.column }
  else s

/-- Closes the blocks that stand further right than a column. -/
def closeBlocks (column indent : Int) : List Int → Nat × Int × List Int
  | [] => (0, indent, [])
  | outer :: rest =>
    if column < indent then
      let (count, indent, rest) := closeBlocks column outer rest
      (count + 1, indent, rest)
    else (0, indent, outer :: rest)

/-- Closes the blocks that stand further right than a column; inside of brackets none is closed. -/
def closeTo (s : Scan) (column : Int) : Scan :=
  if s.inFlow then s
  else
    let (count, indent, outer) := closeBlocks column s.indent s.outer
    let here := place s.cells
    { s with indent, outer, tokens := s.tokens ++ List.replicate count ⟨.blockEnd, here, here⟩ }

/-- Reads a sign that opens a bracket. -/
def openFlow (s : Scan) (kind : TokenKind) : Except Problem Scan := do
  let s ← s.noteKey
  return { s.sign kind 1 with keys := none :: s.keys, keyAllowed := true }

/-- Reads a sign that closes a bracket. -/
def closeFlow (s : Scan) (kind : TokenKind) : Except Problem Scan := do
  let s ← s.dropCurrent
  return { s.sign kind 1 with keys := if s.inFlow then s.keys.tail else s.keys, keyAllowed := false }

/-- Reads a comma. -/
def comma (s : Scan) : Except Problem Scan := do
  return { (← s.dropCurrent).sign .comma 1 with keyAllowed := true }

/-- Outside of brackets a sign may stand only where a key may start. -/
def checkAllowed (s : Scan) (fault : Fault) : Except Problem Unit :=
  if s.inFlow || s.keyAllowed then .ok () else .error { fault, mark := place s.cells }

/-- Reads the sign before an item of a block. -/
def entrySign (s : Scan) : Except Problem Scan := do
  s.checkAllowed .strayEntry
  let s := s.openBlock (place s.cells) s.tokens.length .blockSeq
  return { (← s.dropCurrent).sign .entry 1 with keyAllowed := true }

/-- Reads the sign before a key. -/
def keySign (s : Scan) : Except Problem Scan := do
  s.checkAllowed .strayKey
  let s := s.openBlock (place s.cells) s.tokens.length .blockMap
  return { (← s.dropCurrent).sign .key 1 with keyAllowed := !s.inFlow }

/-- Reads the sign before a value. What was a possible key is one now. -/
def valueSign (s : Scan) : Except Problem Scan := do
  match s.keys with
  | some key :: rest =>
    let s := { s.insert key.position .key key.mark with keys := none :: rest }
    let s := s.openBlock key.mark key.position .blockMap
    return { s.sign .value 1 with keyAllowed := false }
  | _ =>
    s.checkAllowed .strayValue
    let s := s.openBlock (place s.cells) s.tokens.length .blockMap
    return { s.sign .value 1 with keyAllowed := !s.inFlow }

/-- Whether a character may stand in a name. -/
def isNameChar (c : Char) : Bool := c.isAlphanum || c == '_' || c == '-'

/-- The characters of a class at the start, and what follows. -/
def spanChars (p : Char → Bool) (cells : List Cell) : List Char × List Cell :=
  ((cells.takeWhile (p ·.char)).map Cell.char, cells.dropWhile (p ·.char))

/-- Reads the name of an anchor or an alias. -/
def named (s : Scan) (activity : Activity) (kind : String → TokenKind) : Except Problem Scan := do
  let s ← s.noteKey
  let (name, rest) := spanChars isNameChar s.cells.tail
  if name.isEmpty || !(endsWord (head rest) || "?:,]\x7d%@".toList.contains (head rest)
      || (head rest).toNat == 0x60) then
    refuse .noName activity (place s.cells) rest
  else return { s.emit (kind (.ofList name)) rest with keyAllowed := false }

/-- Whether a character may stand in a tag. -/
def isTagChar (verbatim : Bool) (c : Char) : Bool :=
  isNameChar c || ";/?:@&=+$.!~*'()%".toList.contains c || (verbatim && ",[]".toList.contains c)

/-- The byte of a percent sign and two digits. -/
def escapedByte? : List Cell → Option Nat
  | percent :: a :: b :: _ => if percent.char == '%' then hexValue? [a.char, b.char] else none
  | _ => none

/-- The number of bytes of a character that begins with a byte. -/
def charWidth? (byte : Nat) : Option Nat :=
  if byte < 0x80 then some 1
  else if byte < 0xc0 then none
  else if byte < 0xe0 then some 2
  else if byte < 0xf0 then some 3
  else if byte < 0xf8 then some 4
  else none

/-- Reads the bytes of a tag, where a percent sign stands before the two digits of a byte. `lacking`
    is the number of bytes that the last character still lacks. There are at most `n` bytes. -/
def tagBytes (verbatim : Bool) (activity : Activity) (start : Mark) :
    Nat → (lacking : Nat) → List Cell → Except Problem (List UInt8 × List Cell)
  | 0, _, cells => .ok ([], cells)
  | n + 1, lacking, cells => do
    let c := head cells
    if lacking = 0 && !isTagChar verbatim c then return ([], cells)
    if lacking = 0 && c != '%' then
      let (bytes, rest) ← tagBytes verbatim activity start n 0 cells.tail
      return ((String.singleton c).toUTF8.toList ++ bytes, rest)
    match escapedByte? cells with
    | none => refuse .badTagEscape activity start cells
    | some byte =>
      let lacking ←
        if 0 < lacking then
          if byte / 64 = 2 then pure (lacking - 1) else refuse .badNextByte activity start cells
        else match charWidth? byte with
          | some width => pure (width - 1)
          | none => refuse .badFirstByte activity start cells
      let (bytes, rest) ← tagBytes verbatim activity start n lacking (cells.drop 3)
      return (byte.toUInt8 :: bytes, rest)

/-- Reads the text of a tag. Bytes that are no text make one that nobody asks for. -/
def tagText (verbatim : Bool) (activity : Activity) (start : Mark) (cells : List Cell) :
    Except Problem (String × List Cell) := do
  let (bytes, rest) ← tagBytes verbatim activity start cells.length 0 cells
  return ((String.fromUTF8? (ByteArray.mk bytes.toArray)).getD "\ufffd", rest)

/-- Reads a text of a tag that may not be empty. -/
def someTagText (verbatim : Bool) (activity : Activity) (start : Mark) (cells : List Cell) :
    Except Problem (String × List Cell) := do
  let (text, rest) ← tagText verbatim activity start cells
  if text.isEmpty then refuse .noTag activity start rest else return (text, rest)

/-- Reads a tag: `!<text>`, `!handle!suffix` or `!suffix`. -/
def tag (s : Scan) : Except Problem Scan := do
  let s ← s.noteKey
  let start := place s.cells
  let rest := s.cells.tail
  let (handle, suffix, rest) ←
    if head rest == '<' then do
      let (text, rest) ← someTagText true .tagText start rest.tail
      if head rest == '>' then pure ("", text, rest.tail) else refuse .noAngle .tag start rest
    else do
      let (name, after) := spanChars isNameChar rest
      if head after == '!' then do
        let (text, after) ← someTagText false .tagText start after.tail
        pure (String.ofList ('!' :: name ++ ['!']), text, after)
      else do
        let (text, after) ← tagText false .tagText start rest
        pure (if text.isEmpty then ("", "!", after) else ("!", text, after))
  if endsWord (head rest) || (s.inFlow && head rest == ',') then
    return { s.emit (.tag handle suffix) rest with keyAllowed := false }
  else refuse .noBlankOrBreak .tag start rest

/-- Reads a part of a version, of at most nine digits. -/
def versionPart (start : Mark) (cells : List Cell) : Except Problem (Nat × List Cell) :=
  let (digits, rest) := spanChars Char.isDigit cells
  if digits.isEmpty then refuse .noVersion .versionDirective start rest
  else if 9 < digits.length then refuse .longVersion .versionDirective start (cells.drop 9)
  else .ok (digits.foldl (fun n c => 10 * n + (c.toNat - 48)) 0, rest)

/-- Reads a version such as `1.1`. -/
def version (start : Mark) (cells : List Cell) : Except Problem (TokenKind × List Cell) := do
  let (major, rest) ← versionPart start cells
  if head rest != '.' then refuse .noVersionPoint .versionDirective start rest
  else
    let (minor, rest) ← versionPart start rest.tail
    return (.version (major == 1 && (minor == 1 || minor == 2)), rest)

/-- Reads a tag handle and its meaning. -/
def handle (start : Mark) (cells : List Cell) : Except Problem (TokenKind × List Cell) := do
  if head cells != '!' then refuse .noHandle .directiveHandle start cells
  let (name, rest) := spanChars isNameChar cells.tail
  let closed := head rest == '!'
  if !closed && !name.isEmpty then refuse .noHandle .directiveHandleEnd start rest
  let rest := if closed then rest.tail else rest
  if !isBlank (head rest) then refuse .noBlank .tagDirective start rest
  let (text, rest) ← someTagText true .directiveText start (rest.dropWhile (isBlank ·.char))
  if !endsWord (head rest) then refuse .noBlankOrBreak .tagDirective start rest
  return (.handle (.ofList ('!' :: name ++ if closed then ['!'] else [])) text, rest)

/-- Reads a directive. -/
def directive (s : Scan) : Except Problem Scan := do
  let s ← (s.closeTo (-1)).dropCurrent
  let start := place s.cells
  let (name, rest) := spanChars isNameChar s.cells.tail
  if name.isEmpty then refuse .noDirectiveName .directive start rest
  if !endsWord (head rest) then refuse .badDirectiveName .directive start rest
  let after := rest.dropWhile (isBlank ·.char)
  let (kind, rest) ←
    if name = "YAML".toList then version start after
    else if name = "TAG".toList then handle start after
    else refuse .unknownDirective .directive start rest
  let s := s.emit kind rest
  return { s with cells := ← restOfLine .directive start rest, keyAllowed := false }

/-- Reads a mark that starts or ends a document. -/
def documentMark (s : Scan) (kind : TokenKind) : Except Problem Scan := do
  let s ← (s.closeTo (-1)).dropCurrent
  return { s.sign kind 3 with keyAllowed := false }

/-- Reads a block scalar. -/
def blockScalar (s : Scan) (folded : Bool) : Except Problem Scan := do
  let s ← s.dropCurrent
  let (text, rest) ← block folded s.indent s.cells
  let style := if folded then .folded else .literal
  return { s.emit (.scalar style text) rest with keyAllowed := true }

/-- Reads a text between quotes. -/
def quotedScalar (s : Scan)
    (read : Mark → Folded → List Cell → Except Problem (String × List Cell)) :
    Except Problem Scan := do
  let s ← s.noteKey
  let (text, rest) ← read (place s.cells) {} s.cells.tail
  return { s.emit (.scalar .quoted text) rest with keyAllowed := false }

/-- Reads a plain scalar. After a line break a key may start. -/
def plainScalar (s : Scan) : Except Problem Scan := do
  let s ← s.noteKey
  let (text, broken, rest) ← plainFrom s.inFlow (s.indent + 1) (place s.cells) {} s.cells
  return { s.emit (.scalar .plain text) rest with keyAllowed := broken }

/-- The signs that begin no plain scalar. -/
def signs : List Char := "-?:,[]\x7b\x7d#&*!|>'\"%@".toList

/-- Whether a plain scalar begins here. -/
def startsPlain (s : Scan) : Bool :=
  let c := head s.cells
  let next := second s.cells
  (!endsWord c && !signs.contains c && c.toNat != 0x60) || (c == '-' && !isBlank next)
    || (!s.inFlow && (c == '?' || c == ':') && !endsWord next)

/-- Reads the token that begins with the next character. -/
def readToken (s : Scan) : Except Problem Scan :=
  let c := head s.cells
  let spaced := endsWord (second s.cells)
  if c == '%' && (place s.cells).column == 0 then s.directive
  else if startsWithMark '-' s.cells then s.documentMark .documentStart
  else if startsWithMark '.' s.cells then s.documentMark .documentEnd
  else if c == '[' then s.openFlow .flowSeq
  else if c == '\x7b' then s.openFlow .flowMap
  else if c == ']' then s.closeFlow .flowSeqEnd
  else if c == '\x7d' then s.closeFlow .flowMapEnd
  else if c == ',' then s.comma
  else if c == '-' && spaced then s.entrySign
  else if c == '?' && (s.inFlow || spaced) then s.keySign
  else if c == ':' && (s.inFlow || spaced) then s.valueSign
  else if c == '*' then s.named .reference .reference
  else if c == '&' then s.named .anchor .anchor
  else if c == '!' then s.tag
  else if c == '|' && !s.inFlow then s.blockScalar false
  else if c == '>' && !s.inFlow then s.blockScalar true
  else if c == '\'' then s.quotedScalar singleFrom
  else if c == '"' then s.quotedScalar doubleFrom
  else if s.startsPlain then s.plainScalar
  else refuse .strayCharacter .token (place s.cells) s.cells

/-- Reads the end of the text, which always begins a line. -/
def finish (s : Scan) : Except Problem Scan := do
  let here := place s.cells
  let mark := if here.column = 0 then here else ⟨here.line + 1, 0⟩
  let s ← ({ s with cells := [⟨endMark, mark⟩] }.closeTo (-1)).dropCurrent
  return s.sign .stop 0

/-- Reads the next token after blanks. At the end of the text no characters are left. -/
def next (s : Scan) : Except Problem Scan := do
  let (keyAllowed, cells) := skipBlanks s.inFlow false s.keyAllowed s.cells
  let s ← { s with cells, keyAllowed }.dropStale
  let s := s.closeTo (place cells).column
  if head cells == endMark then return { ← (← s.finish).dropStale with cells := [] }
  else (← s.readToken).dropStale

/-- Reads the remaining tokens, at most `n` of them. A problem takes the place of those that are not
    settled. -/
def run : Nat → Scan → List Token
  | 0, s => s.tokens
  | n + 1, s => match s.next with
    | .error p => s.tokens.take s.settled ++ [p.token]
    | .ok s => if s.cells.isEmpty then s.tokens else run n s

end Scan

/-- The tokens of a text. Every token but the last takes at least one character. -/
def tokens (text : List Char) : List Token :=
  match cells text with
  | .error p => [p.token]
  | .ok cells => Scan.run (cells.length + 1) { cells }

end FieldAudit.Yaml
