import FieldAudit.Text.Blank
import FieldAudit.Text.Table.Hidden
import FieldAudit.Text.Table.Mark

/-!
# Quoted text

Text between double quotes in which everything that could not be read off a screen is written as an
escape: quotes, backslashes, line breaks, characters without a glyph and marks that would attach to
their neighbour.
-/

namespace FieldAudit.Text

/-- Characters that attach to the one before them without being non-spacing marks. -/
def extenders : List (Nat × Nat) :=
  [(0x9be, 0x9be), (0x9d7, 0x9d7), (0xb3e, 0xb3e), (0xb57, 0xb57), (0xbbe, 0xbbe), (0xbd7, 0xbd7),
   (0xcc2, 0xcc2), (0xcd5, 0xcd6), (0xd3e, 0xd3e), (0xd57, 0xd57), (0xdcf, 0xdcf), (0xddf, 0xddf),
   (0x1b35, 0x1b35), (0x200c, 0x200c), (0x302e, 0x302f), (0xff9e, 0xff9f), (0x1133e, 0x1133e),
   (0x11357, 0x11357), (0x114b0, 0x114b0), (0x114bd, 0x114bd), (0x115af, 0x115af),
   (0x11930, 0x11930), (0x1d165, 0x1d165), (0x1d16e, 0x1d172), (0xe0020, 0xe007f)]

/-- Whether a character attaches to the one before it. -/
def isExtender (c : Char) : Bool :=
  (inRanges Table.marks c && !inRanges Table.spacing c) || inRanges extenders c

/-- A character by its code point in hexadecimal digits. -/
def codePoint (c : Char) : List Char :=
  "\\u\x7b".toList ++ Nat.toDigits 16 c.toNat ++ ['\x7d']

/-- A character as it stands inside quotes. -/
def quotedChar (c : Char) : List Char :=
  match c with
  | '"' => ['\\', '"']
  | '\\' => ['\\', '\\']
  | '\n' => ['\\', 'n']
  | '\r' => ['\\', 'r']
  | '\t' => ['\\', 't']
  | '\x00' => ['\\', '0']
  | c =>
    if ' ' ≤ c ∧ c ≤ '~' then [c]
    else if inRanges Table.hidden c || isExtender c then codePoint c
    else [c]

/-- A text between quotes. -/
def quoted (s : String) : String := .ofList ('"' :: s.toList.flatMap quotedChar ++ ['"'])

end FieldAudit.Text
