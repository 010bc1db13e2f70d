/-!
# Blank characters, trimming and lines

The characters that Unicode counts as white space, and what is done with them: trimming a text at
either end, and cutting it into lines.
-/

namespace FieldAudit.Text

/-- Whether a code point lies in one of the ranges, ends included. -/
def inRanges (ranges : List (Nat × Nat)) (c : Char) : Bool :=
  ranges.any fun r => r.1 ≤ c.toNat && c.toNat ≤ r.2

/-- The code points that count as white space, as ranges. -/
def blanks : List (Nat × Nat) :=
  [(0x9, 0xd), (0x20, 0x20), (0x85, 0x85), (0xa0, 0xa0), (0x1680, 0x1680), (0x2000, 0x200a),
   (0x2028, 0x2029), (0x202f, 0x202f), (0x205f, 0x205f), (0x3000, 0x3000)]

/-- Whether a character is white space. -/
def isBlank (c : Char) : Bool := inRanges blanks c

/-- Drops the characters of a class at the start. -/
def trimStartBy (p : Char → Bool) (s : List Char) : List Char := s.dropWhile p

/-- Drops the characters of a class at the end. -/
def trimEndBy (p : Char → Bool) (s : List Char) : List Char := (s.reverse.dropWhile p).reverse

/-- Drops blanks at the end. -/
def trimEnd (s : List Char) : List Char := trimEndBy isBlank s

/-- Drops blanks at both ends. -/
def trim (s : List Char) : List Char := trimEnd (trimStartBy isBlank s)

/-- The rest of a text after a given beginning. -/
def afterStart? : List Char → List Char → Option (List Char)
  | [], s => some s
  | p :: ps, c :: cs => if p = c then afterStart? ps cs else none
  | _ :: _, [] => none

/-- A rest is found exactly if the text is the beginning followed by this rest. -/
theorem afterStart?_eq_some {start s rest : List Char} :
    afterStart? start s = some rest ↔ s = start ++ rest := by
  induction start generalizing s with
  | nil => simp [afterStart?]
  | cons p ps ih =>
    cases s with
    | nil => simp [afterStart?]
    | cons c cs =>
      by_cases h : p = c
      · simp [afterStart?, h, ih]
      · simp [afterStart?, h, Ne.symm h]

/-- Whether a text begins with another one. -/
def startsWith (s start : List Char) : Bool := (afterStart? start s).isSome

/-- The test for a beginning decides whether the text starts with that list. -/
theorem startsWith_iff {s start : List Char} : startsWith s start = true ↔ start <+: s := by
  simp only [startsWith, Option.isSome_iff_exists, afterStart?_eq_some]
  exact ⟨fun ⟨rest, h⟩ => ⟨rest, h.symm⟩, fun ⟨rest, h⟩ => ⟨rest, h.symm⟩⟩

/-- Whether a text ends with another one. -/
def endsWith (s stop : List Char) : Bool := startsWith s.reverse stop.reverse

/-- The test for an end decides whether the text stops with that list. -/
theorem endsWith_iff {s stop : List Char} : endsWith s stop = true ↔ stop <:+ s := by
  rw [endsWith, startsWith_iff, List.reverse_prefix]

/-- Whether a text occurs inside another one. -/
def occursIn (part : List Char) : List Char → Bool
  | [] => part.isEmpty
  | c :: cs => startsWith (c :: cs) part || occursIn part cs

/-- The pieces of a text between the occurrences of a character. -/
def splitAt (sep : Char) : List Char → List (List Char)
  | [] => [[]]
  | c :: cs =>
    if c = sep then [] :: splitAt sep cs
    else match splitAt sep cs with
      | piece :: pieces => (c :: piece) :: pieces
      | [] => [[c]]

/-- A line without one carriage return at its end. -/
def dropReturn (line : List Char) : List Char :=
  if line.getLast? = some '\r' then line.dropLast else line

/-- The lines of a text. A final line break does not open another line, and a carriage return before
    a line break is dropped. -/
def lines (s : List Char) : List (List Char) :=
  match (splitAt '\n' s).reverse with
  | [] => []
  | last :: before =>
    let broken := (before.map dropReturn).reverse
    if last.isEmpty then broken else broken ++ [last]

end FieldAudit.Text
