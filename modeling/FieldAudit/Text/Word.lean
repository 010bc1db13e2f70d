import FieldAudit.Text.Blank
import FieldAudit.Text.Table.Letter
import FieldAudit.Text.Table.Mark

/-!
# Words and identifiers

The classes of characters that make up words in directives and identifiers in source files.
-/

namespace FieldAudit.Text

/-- Whether a character is an ASCII letter, an ASCII digit or the low line. -/
def isPlainWord (c : Char) : Bool := c.isAlphanum || c == '_'

/-- Whether a character belongs to a word: letters, marks, digits, connectors and joiners. -/
def isWord (c : Char) : Bool :=
  isPlainWord c || (c.toNat ≥ 128 &&
    (inRanges Table.letters c || inRanges Table.marks c || inRanges Table.digits c
      || inRanges Table.connectors c || inRanges Table.symbolLetters c
      || inRanges Table.laterWords c || c.toNat == 0x200c || c.toNat == 0x200d))

/-- Whether a character may begin an identifier. -/
def isIdentStart (c : Char) : Bool :=
  c.isAlpha || c == '_' || (c.toNat ≥ 128 && inRanges Table.letters c)

/-- Whether a character may continue an identifier. -/
def isIdentPart (c : Char) : Bool :=
  isPlainWord c || (c.toNat ≥ 128 &&
    (inRanges Table.letters c || inRanges Table.digits c || inRanges Table.connectors c
      || (inRanges Table.marks c && !inRanges Table.enclosing c)))

end FieldAudit.Text
