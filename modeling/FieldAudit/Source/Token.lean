import FieldAudit.Source.Glyph
import FieldAudit.Source.Number
import FieldAudit.Text.Word

/-!
# Tokens

A file is cut into words, literals and symbols. Each token keeps its place, the comments before it and
whether a line break stands before it, since line breaks may end statements. Which words are keywords
depends on where they stand and is left to the grammar.
-/

namespace FieldAudit.Source

/-- What a token is. -/
inductive Kind where
  /-- An identifier or a keyword. -/
  | word
  /-- A string between double quotes. -/
  | quoted
  /-- A string between back quotes. -/
  | raw
  /-- A number or a rune. -/
  | literal
  | symbol
  /-- The end of the file. -/
  | stop
deriving DecidableEq, Inhabited

/-- A comment with its markers. -/
structure Comment where
  text : String
  startRow : Nat
  endRow : Nat
deriving DecidableEq, Inhabited

/-- A token. -/
structure Token where
  kind : Kind := .stop
  text : String := ""
  span : Span := {}
  /-- The end of the token before. -/
  before : Position := {}
  /-- A line break stands before the token, outside of comments. -/
  newline : Bool := false
  /-- The comments after the token before. -/
  comments : List Comment := []
deriving Inhabited

/-- The symbols of more than one character, longer ones first. -/
def longSymbols : List (List Char) :=
  ["<<=", ">>=", "&^=", "...", "&&", "||", "<-", "++", "--", "==", "!=", "<=", ">=", ":=", "+=",
   "-=", "*=", "/=", "%=", "&=", "|=", "^=", "<<", ">>", "&^"].map String.toList

/-- The symbols of one character; the NUL character may end a statement. -/
def shortSymbols : List Char := "+-*/%&|^<>=!()[]\x7b\x7d,;.:~\x00".toList

/-- How many glyphs make up the rest of a string after its opening quote, the closing one included. A
    line break may only stand after a backslash. -/
def quotedLength : List Glyph → Option Nat
  | [] => none
  | .char '"' :: _ => some 1
  | .char '\n' :: _ => none
  | .char '\\' :: .char 'x' :: .char a :: .char b :: rest =>
    if Number.isHex a && Number.isHex b then (quotedLength rest).map (· + 4) else none
  | .char '\\' :: .char 'u' :: .char a :: .char b :: .char c :: .char d :: rest =>
    if [a, b, c, d].all Number.isHex then (quotedLength rest).map (· + 6) else none
  | .char '\\' :: .char 'U' :: .char a :: .char b :: .char c :: .char d :: .char e :: .char f ::
      .char g :: .char h :: rest =>
    if [a, b, c, d, e, f, g, h].all Number.isHex then (quotedLength rest).map (· + 10) else none
  | .char '\\' :: escaped :: rest =>
    if escaped = .char 'x' ∨ escaped = .char 'u' ∨ escaped = .char 'U' then none
    else (quotedLength rest).map (· + 2)
  | _ :: rest => (quotedLength rest).map (· + 1)

/-- How many glyphs make up the rest of a back-quoted string, the closing quote included. -/
def rawLength : List Glyph → Option Nat
  | [] => none
  | g :: rest => if g = .char (Char.ofNat 0x60) then some 1 else (rawLength rest).map (· + 1)

/-- How many glyphs make up the rest of a rune after its opening quote, the closing one included. -/
def runeLength : List Glyph → Option Nat
  | .char '\\' :: .char 'x' :: .char a :: .char b :: .char '\'' :: _ =>
    if Number.isHex a && Number.isHex b then some 5 else none
  | .char '\\' :: .char 'u' :: .char a :: .char b :: .char c :: .char d :: .char '\'' :: _ =>
    if [a, b, c, d].all Number.isHex then some 7 else none
  | .char '\\' :: .char 'U' :: .char a :: .char b :: .char c :: .char d :: .char e :: .char f ::
      .char g :: .char h :: .char '\'' :: _ =>
    if [a, b, c, d, e, f, g, h].all Number.isHex then some 11 else none
  | .char '\\' :: .char a :: .char b :: .char c :: .char '\'' :: _ =>
    if [a, b, c].all Number.isOctal then some 5 else none
  | .char '\\' :: .char a :: .char '\'' :: _ =>
    if "abfnrtv\\'\"".toList.contains a then some 3 else none
  | g :: .char '\'' :: _ => if g = .char '\'' ∨ g = .char '\\' then none else some 2
  | _ => none

/-- How many glyphs make up the rest of a block comment after its opening marker. -/
def blockLength : List Glyph → Option Nat
  | [] => none
  | .char '*' :: .char '/' :: _ => some 2
  | _ :: rest => (blockLength rest).map (· + 1)

/-- The characters that a list of glyphs begins with. -/
def leadingChars : List Glyph → List Char
  | .char c :: rest => c :: leadingChars rest
  | _ => []

/-- The symbol that a text begins with. -/
def symbolLength? (s : List Char) : Option Nat :=
  match longSymbols.find? (Text.startsWith s) with
  | some symbol => some symbol.length
  | none => if s.head?.any shortSymbols.contains then some 1 else none

/-- The kind and length of the token that a list of glyphs begins with. -/
def tokenLength? (gs : List Glyph) : Option (Kind × Nat) :=
  match gs with
  | [] => none
  | .stray _ :: _ => none
  | .char c :: rest =>
    if Text.isIdentStart c then
      some (.word, 1 + (rest.takeWhile fun g => g.char?.any Text.isIdentPart).length)
    else if c = '"' then (quotedLength rest).map fun n => (.quoted, n + 1)
    else if c = Char.ofNat 0x60 then (rawLength rest).map fun n => (.raw, n + 1)
    else if c = '\'' then (runeLength rest).map fun n => (.literal, n + 1)
    else
      let s := c :: leadingChars (rest.takeWhile fun g => g != .char '\n')
      match if c.isDigit || c == '.' then Number.length? s else none with
      | some n => some (.literal, n)
      | none => (symbolLength? s).map fun n => (.symbol, n)

/-- The length of the comment that a list of glyphs begins with, `none` if it has no end. -/
def commentLength? (gs : List Glyph) : Option (Option Nat) :=
  match gs with
  | .char '/' :: .char '/' :: rest =>
    some (some (2 + (rest.takeWhile fun g => g != .char '\n').length))
  | .char '/' :: .char '*' :: rest => some ((blockLength rest).map (· + 2))
  | _ => none

/-- Whether a glyph is white space between tokens. -/
def Glyph.isSpace (g : Glyph) : Bool := g.char?.any fun c => ('\t' ≤ c && c ≤ '\r') || c == ' '

/-- Cuts the glyphs from a place on into tokens, the end of the file being the last one. `pending`
    holds what is known of the next token. There is no result if some text is no token. -/
def tokensFrom (place : Position) (pending : Token) (gs : List Glyph) : Option (List Token) :=
  match gs with
  | [] => some [{ pending with kind := .stop, span := ⟨place, place⟩ }]
  | g :: rest =>
    if g.isSpace then
      tokensFrom (advance place g) { pending with newline := pending.newline || g == .char '\n' } rest
    else match commentLength? (g :: rest) with
      | some none => none
      | some (some n) =>
        let own := g :: rest.take (n - 1)
        let tail := advanceAll place own
        let comment : Comment := { text := text own, startRow := place.row, endRow := tail.row }
        tokensFrom tail { pending with comments := pending.comments ++ [comment] } (rest.drop (n - 1))
      | none => match tokenLength? (g :: rest) with
        | none => none
        | some (kind, n) =>
          let own := g :: rest.take (n - 1)
          let tail := advanceAll place own
          (tokensFrom tail { before := tail } (rest.drop (n - 1))).map fun tokens =>
            { pending with kind, text := text own, span := ⟨place, tail⟩ } :: tokens
termination_by gs.length
decreasing_by all_goals (simp only [List.length_drop, List.length_cons]; omega)

/-- The tokens of a file. A byte-order mark at its start is skipped. -/
def tokens (bytes : List UInt8) : Option (List Token) :=
  match glyphs bytes with
  | g :: rest =>
    if g = .char (Char.ofNat 0xfeff) then tokensFrom (advance {} g) {} rest
    else tokensFrom {} {} (g :: rest)
  | [] => tokensFrom {} {} []

end FieldAudit.Source
