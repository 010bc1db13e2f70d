import FieldAudit.Syntax.Basic

/-!
# Glyphs

The content of a source file as characters with their places. Bytes that are no part of a UTF-8
character are kept, because they may stand in comments and strings.
-/

namespace FieldAudit.Source

/-- A character, or a byte that belongs to none. -/
inductive Glyph where
  | char (c : Char)
  | stray (b : UInt8)
deriving DecidableEq, Inhabited

/-- The number of bytes of a glyph. -/
def Glyph.size : Glyph → Nat
  | char c => c.utf8Size
  | stray _ => 1

/-- The character of a glyph. -/
def Glyph.char? : Glyph → Option Char
  | char c => some c
  | stray _ => none

/-- The low six bits of a continuation byte. -/
def continuation? (b : UInt8) : Option Nat :=
  if 0x80 ≤ b ∧ b < 0xc0 then some (b.toNat - 0x80) else none

/-- The code point of continuation bytes after the leading bits `acc`. -/
def codePoint? (acc : Nat) (bytes : List UInt8) : Option Nat :=
  bytes.foldlM (fun acc b => (continuation? b).map (acc * 64 + ·)) acc

/-- A character whose first byte is `lead` and which takes `count` more bytes; it must not have a
    shorter form. -/
def decodeLong (lead : Nat) (count least : Nat) (rest : List UInt8) : Option (Char × Nat) := do
  guard (count ≤ rest.length)
  let code ← codePoint? lead (rest.take count)
  guard (least ≤ code ∧ code.isValidChar)
  return (Char.ofNat code, count)

/-- The character that begins with a byte, and how many of the following bytes belong to it. -/
def decodeChar (b : UInt8) (rest : List UInt8) : Option (Char × Nat) :=
  let n := b.toNat
  if n < 0x80 then some (Char.ofNat n, 0)
  else if n < 0xc0 then none
  else if n < 0xe0 then decodeLong (n - 0xc0) 1 0x80 rest
  else if n < 0xf0 then decodeLong (n - 0xe0) 2 0x800 rest
  else if n < 0xf8 then decodeLong (n - 0xf0) 3 0x10000 rest
  else none

/-- The glyphs of some bytes. -/
def glyphs (bytes : List UInt8) : List Glyph :=
  match bytes with
  | [] => []
  | b :: rest => match decodeChar b rest with
    | some (c, count) => .char c :: glyphs (rest.drop count)
    | none => .stray b :: glyphs rest
termination_by bytes.length
decreasing_by
  · simp only [List.length_drop, List.length_cons]; omega
  · simp

/-- The characters of some bytes, if all of them are UTF-8. -/
def chars? (bytes : List UInt8) : Option (List Char) := (glyphs bytes).mapM Glyph.char?

/-- The text of some glyphs; it is empty if a byte among them belongs to no character. -/
def text (gs : List Glyph) : String :=
  match gs.mapM Glyph.char? with
  | some cs => .ofList cs
  | none => ""

/-- The place after a glyph. -/
def advance (p : Position) (g : Glyph) : Position :=
  if g = .char '\n' then { byte := p.byte + 1, row := p.row + 1, column := 0 }
  else { byte := p.byte + g.size, row := p.row, column := p.column + g.size }

/-- The place after some glyphs. -/
def advanceAll (p : Position) (gs : List Glyph) : Position := gs.foldl advance p

end FieldAudit.Source
