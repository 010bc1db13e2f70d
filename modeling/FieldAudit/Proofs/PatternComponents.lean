import Mathlib
import FieldAudit.Pattern
import FieldAudit.Proofs.PathSegments

/-!
# Patterns and the components of a name

For patterns of plain characters, `?` and `*`, the three ways to match a name come from one notion: a text
fits a pattern if it can be cut into pieces, one for each character of the pattern, none of which reaches
over a slash. A pattern without a slash is held against the last component of a name, and one with a slash
against the components one by one.
-/

namespace FieldAudit.Pattern

/-- The bytes that a character of a pattern may stand for. -/
def Stands (c : Char) (piece : List UInt8) : Prop :=
  if c = '*' then Glob.slash ∉ piece
  else if c = '?' then piece.length = 1 ∧ Glob.slash ∉ piece
  else piece = bytes [c]

/-- The text is made of pieces for which the characters of the pattern stand, one after the other. -/
def Fits (pattern : List Char) (text : List UInt8) : Prop :=
  ∃ pieces, List.Forall₂ Stands pattern pieces ∧ text = pieces.flatten

/-- The pattern has no class, choice or escape, and no two stars in a row. -/
structure Simple (pattern : List Char) : Prop where
  plain : ∀ c ∈ pattern, c ∉ ['[', ']', '\x7b', '\x7d', '\\']
  apart : ¬ ['*', '*'] <:+: pattern

instance : DecidablePred Simple := fun p =>
  decidable_of_iff
    (p.all (fun c => c ∉ ['[', ']', '\x7b', '\x7d', '\\']) = true ∧ ¬ ['*', '*'] <:+: p) <| by
      simp only [List.all_eq_true, decide_eq_true_eq]
      exact ⟨fun h => ⟨h.1, h.2⟩, fun h => ⟨h.plain, h.apart⟩⟩

/-! ## Bytes -/

section

variable {s t : List Char} {c : Char}

/-- The loop over a byte array appends the bytes that are left. -/
lemma toList_loop_eq (b : ByteArray) (i : Nat) (r : List UInt8) :
    ByteArray.toList.loop b i r = r.reverse ++ b.data.toList.drop i := by
  induction i, r using ByteArray.toList.loop.induct b with
  | case1 i r h ih =>
    have inside : i < b.data.toList.length := h
    have e : b.get! i = b.data.toList[i] := by
      cases b
      exact getElem!_pos _ i h
    rw [ByteArray.toList.loop, if_pos h, ih, List.drop_eq_getElem_cons inside, e, List.reverse_cons,
      List.append_assoc, List.singleton_append]
  | case2 i r h =>
    rw [ByteArray.toList.loop, if_neg h, List.drop_eq_nil_of_le (Nat.le_of_not_lt h), List.append_nil]

/-- The bytes of a text are those of its encoding. -/
lemma bytes_eq (s : List Char) : bytes s = s.utf8Encode.data.toList := by
  rw [bytes, String.toUTF8_eq_toByteArray, String.toByteArray_ofList, ByteArray.toList, toList_loop_eq,
    List.reverse_nil, List.nil_append, List.drop_zero]

/-- The bytes of two texts in a row are those of the first and then those of the second. -/
lemma bytes_append (s t : List Char) : bytes (s ++ t) = bytes s ++ bytes t := by
  rw [bytes_eq, bytes_eq, bytes_eq, List.utf8Encode_append, ByteArray.toList_data_append]

/-- The bytes of a text are those of its first character and then those of the rest. -/
lemma bytes_cons (c : Char) (s : List Char) : bytes (c :: s) = bytes [c] ++ bytes s :=
  bytes_append [c] s

/-- The empty text has no bytes. -/
lemma bytes_nil : bytes [] = [] := by
  rw [bytes_eq]
  rfl

/-- The bytes of a character are those of its encoding. -/
lemma bytes_singleton (c : Char) : bytes [c] = String.utf8EncodeChar c := by
  rw [bytes_eq, List.utf8Encode_singleton, List.data_toByteArray]

/-- A slash is encoded as a single byte. -/
lemma bytes_slash : bytes ['/'] = [Glob.slash] := by
  rw [bytes_singleton]
  decide

/-- A byte with the highest bit set is no slash. -/
lemma slash_ne_of_or (a : UInt8) {m : UInt8} (h : 0x80 ≤ m.toNat) : Glob.slash ≠ a ||| m := by
  intro e
  have large : m.toNat ≤ Glob.slash.toNat := by
    rw [e, UInt8.toNat_or]
    exact Nat.right_le_or
  exact absurd (h.trans large) (by decide)

/-- No other character has the byte of the slash among its bytes. -/
lemma slash_mem_bytes_singleton : Glob.slash ∈ bytes [c] ↔ c = '/' := by
  constructor
  · intro h
    rw [bytes_singleton] at h
    rcases Char.utf8Size_eq c with size | size | size | size
    · rw [String.utf8EncodeChar_eq_singleton size, List.mem_singleton] at h
      have small : c.val.toNat ≤ 127 := Char.utf8Size_eq_one_iff.1 size
      have e : Glob.slash.toNat = c.val.toNat % 256 := by
        rw [h, UInt32.toNat_toUInt8]
      rw [Nat.mod_eq_of_lt (by omega)] at e
      apply Char.ext
      apply UInt32.toNat_inj.1
      exact e.symm
    · rw [String.utf8EncodeChar_eq_cons_cons size] at h
      simp [slash_ne_of_or] at h
    · rw [String.utf8EncodeChar_eq_cons_cons_cons size] at h
      simp [slash_ne_of_or] at h
    · rw [String.utf8EncodeChar_eq_cons_cons_cons_cons size] at h
      simp [slash_ne_of_or] at h
  · rintro rfl
    rw [bytes_slash]
    exact List.mem_cons_self

/-- The bytes of a text have a slash exactly if the text has one. -/
lemma slash_mem_bytes : Glob.slash ∈ bytes s ↔ '/' ∈ s := by
  induction s with
  | nil => simp [bytes_nil]
  | cons c s ih =>
    rw [bytes_cons, List.mem_append, slash_mem_bytes_singleton, ih, List.mem_cons, eq_comm]

end

/-! ## Fitting texts -/

section

variable {c : Char} {p q : List Char} {s : List UInt8}

/-- A star stands for any bytes without a slash. -/
lemma stands_star {piece : List UInt8} : Stands '*' piece ↔ Glob.slash ∉ piece := by
  rw [Stands, if_pos rfl]

/-- A question mark stands for one byte that is no slash. -/
lemma stands_one {piece : List UInt8} : Stands '?' piece ↔ ∃ b, piece = [b] ∧ b ≠ Glob.slash := by
  rw [Stands, if_neg (by decide), if_pos rfl, List.length_eq_one_iff]
  constructor
  · rintro ⟨⟨b, rfl⟩, h⟩
    rw [List.mem_singleton] at h
    exact ⟨b, rfl, Ne.symm h⟩
  · rintro ⟨b, rfl, h⟩
    rw [List.mem_singleton]
    exact ⟨⟨b, rfl⟩, Ne.symm h⟩

/-- Any other character stands for itself. -/
lemma stands_plain (hs : c ≠ '*') (ho : c ≠ '?') {piece : List UInt8} :
    Stands c piece ↔ piece = bytes [c] := by
  rw [Stands, if_neg hs, if_neg ho]

/-- Only a slash stands for a slash. -/
lemma Stands.slash_notMem {piece : List UInt8} (h : Stands c piece) (hc : c ≠ '/') :
    Glob.slash ∉ piece := by
  by_cases hs : c = '*'
  · rw [hs] at h
    exact stands_star.1 h
  · by_cases ho : c = '?'
    · rw [ho] at h
      obtain ⟨b, rfl, hb⟩ := stands_one.1 h
      rw [List.mem_singleton]
      exact Ne.symm hb
    · rw [(stands_plain hs ho).1 h, slash_mem_bytes_singleton]
      exact hc

/-- The empty pattern fits the empty text alone. -/
lemma fits_nil : Fits [] s ↔ s = [] := by
  constructor
  · rintro ⟨pieces, h, rfl⟩
    cases h
    rfl
  · rintro rfl
    exact ⟨[], .nil, rfl⟩

/-- A pattern fits a text that begins with a piece for its first character, if the rest fits. -/
lemma fits_cons : Fits (c :: p) s ↔ ∃ piece rest, s = piece ++ rest ∧ Stands c piece ∧ Fits p rest := by
  constructor
  · rintro ⟨pieces, h, rfl⟩
    cases h with
    | @cons _ piece _ pieces hc hp =>
      exact ⟨piece, pieces.flatten, List.flatten_cons, hc, pieces, hp, rfl⟩
  · rintro ⟨piece, rest, rfl, hc, pieces, hp, rfl⟩
    exact ⟨piece :: pieces, .cons hc hp, List.flatten_cons.symm⟩

/-- Patterns in a row fit texts in a row. -/
lemma fits_append : Fits (p ++ q) s ↔ ∃ a b, s = a ++ b ∧ Fits p a ∧ Fits q b := by
  induction p generalizing s with
  | nil => simp [fits_nil]
  | cons c p ih =>
    rw [List.cons_append, fits_cons]
    simp only [ih, fits_cons]
    constructor
    · rintro ⟨piece, _, rfl, hc, a, b, rfl, hp, hq⟩
      exact ⟨piece ++ a, b, (List.append_assoc _ _ _).symm, ⟨piece, a, rfl, hc, hp⟩, hq⟩
    · rintro ⟨_, b, rfl, ⟨piece, a, rfl, hc, hp⟩, hq⟩
      exact ⟨piece, a ++ b, List.append_assoc _ _ _, hc, a, b, rfl, hp, hq⟩

/-- A slash in a pattern fits a slash between what fits before and behind it. -/
lemma fits_append_slash :
    Fits (p ++ '/' :: q) s ↔ ∃ a b, s = a ++ Glob.slash :: b ∧ Fits p a ∧ Fits q b := by
  have hs : ∀ piece, Stands '/' piece ↔ piece = [Glob.slash] := by
    intro piece
    rw [stands_plain (by decide) (by decide), bytes_slash]
  simp only [fits_append, fits_cons, hs]
  constructor
  · rintro ⟨a, _, rfl, hp, _, b, rfl, rfl, hq⟩
    exact ⟨a, b, rfl, hp, hq⟩
  · rintro ⟨a, b, rfl, hp, hq⟩
    exact ⟨a, _, rfl, hp, _, b, rfl, rfl, hq⟩

/-- A pattern without a slash fits no text with one. -/
lemma Fits.slash_notMem (h : Fits p s) (hp : '/' ∉ p) : Glob.slash ∉ s := by
  induction p generalizing s with
  | nil =>
    rw [fits_nil.1 h]
    exact List.not_mem_nil
  | cons c p ih =>
    rw [List.mem_cons, not_or] at hp
    obtain ⟨piece, rest, rfl, hc, hr⟩ := fits_cons.1 h
    rw [List.mem_append, not_or]
    exact ⟨hc.slash_notMem (Ne.symm hp.1), ih hr hp.2⟩

end

/-! ## Components -/

section

/-- A text has no slash, or goes on after its first one. -/
@[elab_as_elim]
lemma slash_induction {motive : List Char → Prop} (last : ∀ s, '/' ∉ s → motive s)
    (first : ∀ front back, '/' ∉ front → motive back → motive (front ++ '/' :: back))
    (s : List Char) : motive s := by
  induction h : s.length using Nat.strong_induction_on generalizing s with
  | _ length ih =>
    by_cases hs : '/' ∈ s
    · obtain ⟨front, back, rfl, hf⟩ := List.eq_append_cons_of_mem hs
      apply first front back hf
      apply ih back.length _ back rfl
      rw [← h, List.length_append, List.length_cons]
      omega
    · exact last s hs

/-- A path is split at its first slash. -/
lemma splitAt_first {front : List Char} (h : '/' ∉ front) (back : List Char) :
    Text.splitAt '/' (front ++ '/' :: back) = front :: Text.splitAt '/' back := by
  rw [Text.splitAt_append_sep, Text.splitAt_of_notMem h, List.singleton_append]

/-- The bytes of a path are split at its first slash. -/
lemma bytes_first (front back : List Char) :
    bytes (front ++ '/' :: back) = bytes front ++ Glob.slash :: bytes back := by
  rw [bytes_append, bytes_cons, bytes_slash, List.singleton_append]

/-- Texts are cut at their first slash in one way only. -/
lemma first_slash_unique {a a' b b' : List UInt8} (ha : Glob.slash ∉ a) (ha' : Glob.slash ∉ a')
    (e : a ++ Glob.slash :: b = a' ++ Glob.slash :: b') : a = a' ∧ b = b' := by
  induction a generalizing a' with
  | nil =>
    cases a' with
    | nil => exact ⟨rfl, (List.cons.inj e).2⟩
    | cons x a' => exact absurd (List.cons.inj e).1 (List.ne_of_not_mem_cons ha')
  | cons x a ih =>
    cases a' with
    | nil => exact absurd (List.cons.inj e).1.symm (List.ne_of_not_mem_cons ha)
    | cons x' a' =>
      obtain ⟨rfl, rest⟩ := List.cons.inj e
      obtain ⟨rfl, rfl⟩ := ih (List.not_mem_of_not_mem_cons ha) (List.not_mem_of_not_mem_cons ha') rest
      exact ⟨rfl, rfl⟩

/-- A text fits a pattern exactly if its components fit those of the pattern, one by one. -/
lemma fits_bytes_iff (p n : List Char) :
    Fits p (bytes n) ↔
      List.Forall₂ (fun q c => Fits q (bytes c)) (Text.splitAt '/' p) (Text.splitAt '/' n) := by
  induction p using slash_induction generalizing n with
  | last p hp =>
    rw [Text.splitAt_of_notMem hp]
    cases n using slash_induction with
    | last n hn => rw [Text.splitAt_of_notMem hn, List.forall₂_cons, and_iff_left .nil]
    | first front back hf _ =>
      rw [splitAt_first hf, bytes_first, List.forall₂_cons, List.forall₂_nil_left_iff]
      constructor
      · intro h
        exact absurd (List.mem_append_right _ List.mem_cons_self) (h.slash_notMem hp)
      · rintro ⟨_, h⟩
        exact absurd h (Text.splitAt_ne_nil '/' back)
  | first f b hf ih =>
    rw [splitAt_first hf, fits_append_slash]
    cases n using slash_induction with
    | last n hn =>
      rw [Text.splitAt_of_notMem hn, List.forall₂_cons, List.forall₂_nil_right_iff]
      constructor
      · rintro ⟨x, y, e, _⟩
        rw [← slash_mem_bytes, e] at hn
        exact absurd (List.mem_append_right _ List.mem_cons_self) hn
      · rintro ⟨_, h⟩
        exact absurd h (Text.splitAt_ne_nil '/' b)
    | first front back hfront _ =>
      rw [splitAt_first hfront, bytes_first, List.forall₂_cons, ← ih]
      constructor
      · rintro ⟨x, y, e, hx, hy⟩
        obtain ⟨rfl, rfl⟩ := first_slash_unique (mt slash_mem_bytes.1 hfront) (hx.slash_notMem hf) e
        exact ⟨hx, hy⟩
      · rintro ⟨hx, hy⟩
        exact ⟨_, _, rfl, hx, hy⟩

end

/-! ## The pieces of a glob -/

section

open Glob

/-- The pieces that a character of a simple pattern is read as. -/
def piecesOf (c : Char) : List Piece :=
  if c = '*' then [.run] else if c = '?' then [.one] else (bytes [c]).map .byte

/-- Pieces in a row are tried one after the other. -/
lemma accepts_append (k : List UInt8 → Bool) (s : List UInt8) (ps qs : List Piece) :
    accepts k s (ps ++ qs) = accepts (fun t => accepts k t qs) s ps := by
  induction ps generalizing s with
  | nil => rw [List.nil_append, accepts]
  | cons p ps ih =>
    rw [List.cons_append, accepts, accepts]
    simp only [ih]

/-- What may be left after a star is any rest behind bytes without a slash. -/
lemma mem_afterRun {s t : List UInt8} : t ∈ afterRun s ↔ ∃ a, s = a ++ t ∧ slash ∉ a := by
  induction s with
  | nil =>
    rw [afterRun, List.mem_singleton]
    constructor
    · rintro rfl
      exact ⟨[], rfl, List.not_mem_nil⟩
    · rintro ⟨a, e, _⟩
      exact (List.append_eq_nil_iff.1 e.symm).2
  | cons b s ih =>
    rw [afterRun, List.mem_cons]
    constructor
    · rintro (rfl | h)
      · exact ⟨[], rfl, List.not_mem_nil⟩
      · split at h
        · exact absurd h List.not_mem_nil
        · rename_i hb
          obtain ⟨a, rfl, ha⟩ := ih.1 h
          exact ⟨b :: a, rfl, List.not_mem_cons_of_ne_of_not_mem (Ne.symm hb) ha⟩
    · rintro ⟨a, e, ha⟩
      cases a with
      | nil => exact .inl e.symm
      | cons x a =>
        obtain ⟨rfl, rest⟩ := List.cons.inj e
        right
        rw [if_neg (Ne.symm (List.ne_of_not_mem_cons ha))]
        exact ih.2 ⟨a, rest, List.not_mem_of_not_mem_cons ha⟩

/-- Plain bytes are accepted exactly at the start of the text. -/
lemma accepts_bytes {k : List UInt8 → Bool} {s bs : List UInt8} :
    accepts k s (bs.map .byte) = true ↔ ∃ t, s = bs ++ t ∧ k t = true := by
  induction bs generalizing s with
  | nil => simp [accepts]
  | cons b bs ih =>
    rw [List.map_cons, accepts]
    cases s with
    | nil => simp [Piece.accepts]
    | cons c s => simp [Piece.accepts, ih, and_assoc]

/-- The pieces of a character accept what the character stands for. -/
lemma accepts_piecesOf {k : List UInt8 → Bool} {s : List UInt8} {c : Char} :
    accepts k s (piecesOf c) = true ↔
      ∃ piece rest, s = piece ++ rest ∧ Stands c piece ∧ k rest = true := by
  by_cases hs : c = '*'
  · rw [hs, piecesOf, if_pos rfl, accepts, Piece.accepts, List.any_eq_true]
    simp only [accepts, mem_afterRun, stands_star]
    constructor
    · rintro ⟨t, ⟨a, e, ha⟩, ht⟩
      exact ⟨a, t, e, ha, ht⟩
    · rintro ⟨a, t, e, ha, ht⟩
      exact ⟨t, ⟨a, e, ha⟩, ht⟩
  · by_cases ho : c = '?'
    · rw [ho, piecesOf, if_neg (by decide), if_pos rfl, accepts]
      simp only [accepts, stands_one]
      cases s with
      | nil => simp [Piece.accepts]
      | cons b s =>
        simp only [Piece.accepts, Bool.and_eq_true, bne_iff_ne]
        constructor
        · rintro ⟨hb, hk⟩
          exact ⟨[b], s, rfl, ⟨b, rfl, hb⟩, hk⟩
        · rintro ⟨_, t, e, ⟨b', rfl, hb⟩, hk⟩
          obtain ⟨rfl, rfl⟩ := List.cons.inj e
          exact ⟨hb, hk⟩
    · rw [piecesOf, if_neg hs, if_neg ho, accepts_bytes]
      simp only [stands_plain hs ho]
      constructor
      · rintro ⟨t, e, ht⟩
        exact ⟨_, t, e, rfl, ht⟩
      · rintro ⟨_, t, e, rfl, ht⟩
        exact ⟨t, e, ht⟩

/-- The pieces of a simple pattern accept exactly the texts that fit it. -/
lemma accepts_flatMap_piecesOf {p : List Char} {s : List UInt8} :
    accepts List.isEmpty s (p.flatMap piecesOf) = true ↔ Fits p s := by
  induction p generalizing s with
  | nil => rw [List.flatMap_nil, accepts, List.isEmpty_iff, fits_nil]
  | cons c p ih =>
    rw [List.flatMap_cons, accepts_append, accepts_piecesOf, fits_cons]
    simp only [ih]

/-- A simple pattern has no piece for directories at its start. -/
lemma leading_notMem (p : List Char) : Piece.leading ∉ p.flatMap piecesOf := by
  intro h
  obtain ⟨c, _, h⟩ := List.mem_flatMap.1 h
  rw [piecesOf] at h
  split at h
  · cases List.mem_singleton.1 h
  · split at h
    · cases List.mem_singleton.1 h
    · obtain ⟨b, _, e⟩ := List.mem_map.1 h
      cases e

/-- The glob of a simple pattern matches the texts that fit the pattern. -/
lemma isMatch_flatMap_piecesOf {p : List Char} {s : List UInt8} :
    Glob.isMatch ⟨p.flatMap piecesOf⟩ s = true ↔ Fits p s := by
  rw [← accepts_flatMap_piecesOf, Glob.isMatch]
  split
  · rename_i e
    have leading : Piece.leading ∈ p.flatMap piecesOf := by
      rw [show p.flatMap piecesOf = [.leading] from e]
      exact List.mem_cons_self
    exact absurd leading (leading_notMem p)
  · rfl

instance (p : List Char) (s : List UInt8) : Decidable (Fits p s) :=
  decidable_of_iff _ isMatch_flatMap_piecesOf

end

/-! ## Reading a simple pattern -/

section

open Glob

variable {read rest : List Char} {s : State} {c : Char}

/-- The state behind a simple beginning of a pattern: no choice is open, and at most one star waits for
    what follows it. -/
structure Reading (read : List Char) (s : State) : Prop where
  opened : s.opened = []
  pieces : s.mode = .plain ∧ s.current.reverse = read.flatMap piecesOf ∨
    ∃ before, s.mode = .star before ∧ read.getLast? = some '*' ∧
      (s.push .run).current.reverse = read.flatMap piecesOf

/-- Bytes are pushed in reverse. -/
lemma foldl_push (bs : List UInt8) (s : State) :
    bs.foldl (fun s b => s.push (.byte b)) s = { s with current := (bs.map .byte).reverse ++ s.current } := by
  induction bs generalizing s with
  | nil => rfl
  | cons b bs ih =>
    rw [List.foldl_cons, ih, List.map_cons, List.reverse_cons, List.append_assoc]
    rfl

/-- Pushing a character pushes its bytes in reverse. -/
lemma pushChar_eq (s : State) (c : Char) :
    s.pushChar c = { s with current := ((bytes [c]).map .byte).reverse ++ s.current } :=
  foldl_push (bytes [c]) s

/-- What one character of a simple pattern does to a state. -/
def afterPlain (s : State) (c : Char) : State :=
  if c = '*' then { s with mode := .star s.last }
  else { s with current := (piecesOf c).reverse ++ s.current }

/-- Pushing a plain character is what a simple pattern does with it. -/
lemma pushChar_of_plain (hs : c ≠ '*') (ho : c ≠ '?') : s.pushChar c = afterPlain s c := by
  rw [pushChar_eq, afterPlain, if_neg hs, piecesOf, if_neg hs, if_neg ho]

/-- A character that is not special is read as a simple pattern reads it. -/
lemma plainStep_eq (hc : c ∉ ['[', ']', '\x7b', '\x7d', '\\']) (ho : s.opened = []) :
    plainStep s c = .ok (afterPlain s c) := by
  unfold plainStep
  split
  · rfl
  · rfl
  · exact absurd (by decide) hc
  · exact absurd (by decide) hc
  · exact absurd (by decide) hc
  · rw [← pushChar_of_plain (by decide) (by decide), ho]
  · exact absurd (by decide) hc
  · rename_i one star _ _ _ _ _
    rw [pushChar_of_plain star one]

/-- After one more character of a simple pattern the state holds the pieces read so far. -/
lemma reading_afterPlain (hm : s.mode = .plain) (ho : s.opened = [])
    (hp : s.current.reverse = read.flatMap piecesOf) (c : Char) :
    Reading (read ++ [c]) { afterPlain s c with last := some c } := by
  have pieces : (read ++ [c]).flatMap piecesOf = read.flatMap piecesOf ++ piecesOf c := by
    rw [List.flatMap_append, List.flatMap_singleton]
  unfold afterPlain
  split
  · rename_i star
    refine ⟨ho, .inr ⟨s.last, rfl, ?_, ?_⟩⟩
    · rw [List.getLast?_concat, star]
    · rw [pieces, ← hp, star]
      exact List.reverse_cons
  · refine ⟨ho, .inl ⟨hm, ?_⟩⟩
    rw [pieces, ← hp, List.reverse_append, List.reverse_reverse]

/-- Two stars are not read in a row. -/
lemma Reading.step (h : Reading read s) (hc : c ∉ ['[', ']', '\x7b', '\x7d', '\\'])
    (apart : read.getLast? = some '*' → c ≠ '*') :
    ∃ s', Glob.step s c = .ok s' ∧ Reading (read ++ [c]) s' := by
  rcases h.pieces with ⟨hm, hp⟩ | ⟨before, hm, hl, hp⟩
  · refine ⟨_, ?_, reading_afterPlain hm h.opened hp c⟩
    simp only [Glob.step, hm, plainStep_eq hc h.opened]
    rfl
  · refine ⟨_, ?_, reading_afterPlain (s := { s.push .run with mode := .plain }) rfl h.opened hp c⟩
    have ho : ({ s.push .run with mode := .plain } : State).opened = [] := h.opened
    simp only [Glob.step, hm, if_neg (apart hl), plainStep_eq hc ho]
    rfl

/-- A simple pattern is read to its end without an error. -/
lemma Reading.foldlM (h : Reading read s) (simple : Simple (read ++ rest)) :
    ∃ s', rest.foldlM Glob.step s = .ok s' ∧ Reading (read ++ rest) s' := by
  induction rest generalizing read s with
  | nil => exact ⟨s, rfl, by rwa [List.append_nil]⟩
  | cons c rest ih =>
    have hc := simple.plain c (List.mem_append_right _ List.mem_cons_self)
    have apart : read.getLast? = some '*' → c ≠ '*' := by
      rintro hl rfl
      obtain ⟨front, rfl⟩ := List.getLast?_eq_some_iff.1 hl
      exact simple.apart ⟨front, rest, by simp⟩
    obtain ⟨s', hs, h'⟩ := h.step hc apart
    rw [List.append_cons] at simple ⊢
    rw [List.foldlM_cons, hs]
    exact ih h' simple

/-- At the end of a simple pattern the pieces read so far are the glob. -/
lemma Reading.finish (h : Reading read s) : Glob.finish s = .ok ⟨read.flatMap piecesOf⟩ := by
  rcases h.pieces with ⟨hm, hp⟩ | ⟨before, hm, _, hp⟩
  · simp only [Glob.finish, hm, pure_bind, h.opened, hp]
    rfl
  · have ho : (s.push .run).opened = [] := h.opened
    simp only [Glob.finish, hm, pure_bind, ho, hp]
    rfl

/-- A simple pattern is read as the pieces of its characters. -/
lemma parse_simple {text : String} (simple : Simple text.toList) :
    Glob.parse text = .ok ⟨text.toList.flatMap piecesOf⟩ := by
  have start : Reading [] {} := ⟨rfl, .inl ⟨rfl, rfl⟩⟩
  obtain ⟨s, hs, h⟩ := start.foldlM (show Simple ([] ++ text.toList) from simple)
  rw [Glob.parse, hs]
  exact h.finish

end

/-! ## Matching a name -/

section

variable {text name : String} {t : List Char}

/-- The test for an occurrence decides whether the text is inside the other one. -/
lemma occursIn_iff {part s : List Char} : Text.occursIn part s = true ↔ part <:+: s := by
  induction s with
  | nil => rw [Text.occursIn, List.isEmpty_iff, List.infix_nil]
  | cons c s ih => rw [Text.occursIn, Bool.or_eq_true, Text.startsWith_iff, ih, List.infix_cons_iff]

/-- The pattern that asks for a segment at any depth. -/
def special (segment : List Char) : List Char := ['*', '/'] ++ (segment ++ ['/', '*'])

/-- The pattern for a segment asks for the segment between slashes. -/
lemma segment?_special (segment : List Char) :
    segment? (special segment) = some ('/' :: (segment ++ ['/'])) := by
  have starts : Text.startsWith (special segment) ['*', '/'] = true :=
    Text.startsWith_iff.2 (List.prefix_append _ _)
  have ends : Text.endsWith (special segment) ['/', '*'] = true := by
    rw [Text.endsWith_iff, special, ← List.append_assoc]
    exact List.suffix_append _ _
  have long : (special segment).length > 3 := by
    simp [special]
  have cut : (special segment).drop 1 = ('/' :: (segment ++ ['/'])) ++ ['*'] := by
    simp [special]
  rw [segment?, if_pos (by rw [starts, ends, decide_eq_true long]; rfl), cut, List.dropLast_concat]

/-- Only the pattern for a segment asks for a segment. -/
lemma segment?_eq_none (h : ∀ segment, t ≠ special segment) : segment? t = none := by
  rw [segment?, if_neg]
  intro cond
  simp only [Bool.and_eq_true, decide_eq_true_eq, Text.startsWith_iff, Text.endsWith_iff] at cond
  obtain ⟨⟨long, rest, rfl⟩, ends⟩ := cond
  rw [List.length_append] at long
  have behind : ['/', '*'] <:+ rest :=
    List.suffix_of_suffix_length_le ends (List.suffix_append _ _) (by simp at long ⊢; omega)
  obtain ⟨segment, rfl⟩ := behind
  exact h segment rfl

/-- A simple pattern asks for a segment, or is read as a glob. -/
lemma parse_cases (simple : Simple text.toList) :
    (∃ segment, text.toList = special segment ∧
      parse text = .ok (.contains ('/' :: (segment ++ ['/'])))) ∨
    (∀ segment, text.toList ≠ special segment) ∧
      parse text = .ok (if text.toList.contains '/' then .path ⟨text.toList.flatMap piecesOf⟩
        else .base ⟨text.toList.flatMap piecesOf⟩) := by
  by_cases h : ∃ segment, text.toList = special segment
  · obtain ⟨segment, e⟩ := h
    refine .inl ⟨segment, e, ?_⟩
    simp only [parse, e, segment?_special]
  · have none : ∀ segment, text.toList ≠ special segment := fun segment e => h ⟨segment, e⟩
    refine .inr ⟨none, ?_⟩
    simp only [parse, segment?_eq_none none, parse_simple simple]

/-- Taking a class of characters stops at the first one outside it. -/
lemma takeWhile_append_cons {f : Char → Bool} {x : Char} (hx : ¬ f x = true) (s r : List Char) :
    (s ++ x :: r).takeWhile f = s.takeWhile f := by
  induction s with
  | nil => rw [List.nil_append, List.takeWhile_cons_of_neg hx, List.takeWhile_nil]
  | cons c s ih =>
    rw [List.cons_append, List.takeWhile_cons, List.takeWhile_cons, ih]

/-- The last segment of a path is found behind each of its slashes. -/
lemma baseName_below (front back : List Char) : baseName (front ++ '/' :: back) = baseName back := by
  rw [baseName, List.reverse_append, List.reverse_cons, List.append_assoc, List.singleton_append,
    takeWhile_append_cons (by decide)]
  rfl

/-- A path without slashes is its own last segment. -/
lemma baseName_of_notMem (h : '/' ∉ t) : baseName t = t := by
  have all : t.reverse.takeWhile (· != '/') = t.reverse := by
    rw [List.takeWhile_eq_self_iff]
    intro c hc
    rw [bne_iff_ne]
    rintro rfl
    exact h (List.mem_reverse.1 hc)
  rw [baseName, all, List.reverse_reverse]

/-- The base name is the last segment of the path. -/
lemma getLast?_splitAt (t : List Char) : (Text.splitAt '/' t).getLast? = some (baseName t) := by
  induction t using slash_induction with
  | last t h => rw [Text.splitAt_of_notMem h, baseName_of_notMem h, List.getLast?_singleton]
  | first front back h ih =>
    rw [splitAt_first h, baseName_below, ← ih, ← List.singleton_append,
      List.getLast?_append_of_ne_nil _ (Text.splitAt_ne_nil '/' back)]

/-- A name with its backslashes read as slashes. -/
def slashed (name : String) : List Char := name.toList.map fun c => if c = '\\' then '/' else c

/-- A name without backslashes has nothing to be replaced. -/
lemma slashed_eq (h : '\\' ∉ name.toList) : slashed name = name.toList := by
  have same : ∀ c ∈ name.toList, (if c = '\\' then '/' else c) = id c := by
    intro c hc
    apply if_neg
    rintro rfl
    exact h hc
  rw [slashed, List.map_congr_left same, List.map_id]

/-- Names below a directory are replaced one by one. -/
lemma slashed_below (dir name : String) :
    slashed (dir ++ "/" ++ name) = slashed dir ++ '/' :: slashed name := by
  simp [slashed]

/-- A name that is not empty stays so. -/
lemma slashed_and (h : name ≠ "") (b : Bool) : (!(slashed name).isEmpty && b) = b := by
  have filled : (slashed name).isEmpty = false := by
    rw [slashed, List.isEmpty_map, List.isEmpty_eq_false_iff]
    exact mt String.toList_eq_nil_iff.1 h
  rw [filled, Bool.not_false, Bool.true_and]

/-- A pattern without a slash is compared with the base name. -/
lemma isMatch_base (glob : Glob) (hn : name ≠ "") :
    (base glob).isMatch name = glob.isMatch (bytes (baseName (slashed name))) :=
  slashed_and hn _

/-- A pattern with a slash is compared with the whole path. -/
lemma isMatch_path (glob : Glob) (hn : name ≠ "") :
    (path glob).isMatch name = glob.isMatch (bytes (slashed name)) :=
  slashed_and hn _

/-- A pattern for a segment is looked for in the whole path. -/
lemma isMatch_contains (part : List Char) (hn : name ≠ "") :
    (contains part).isMatch name = Text.occursIn part (slashed name) :=
  slashed_and hn _

/-- The written pattern for a segment is the one that is recognised. -/
lemma toList_special (segment : String) :
    ("*/" ++ segment ++ "/*").toList = special segment.toList := by
  simp [special]

end

/-- A simple pattern without a slash matches a name exactly if the last component of the name fits it, so
    what stands before that component makes no difference. One with a slash matches if it has as many
    components as the name, and each one of the name fits that of the pattern. Only `*/segment/*` asks for
    no more than that the name has the segment between slashes. -/
theorem simple_patterns_by_components (text : String) (simple : Simple text.toList) :
    ∃ pattern, parse text = .ok pattern ∧ ∀ name : String, name ≠ "" → '\\' ∉ name.toList →
      ('/' ∉ text.toList →
        (∀ last ∈ (segments name).getLast?,
          pattern.isMatch name = true ↔ Fits text.toList (bytes last)) ∧
        ∀ dir : String, pattern.isMatch (dir ++ "/" ++ name) = pattern.isMatch name) ∧
      ('/' ∈ text.toList → (∀ segment : String, text ≠ "*/" ++ segment ++ "/*") →
        (pattern.isMatch name = true ↔
          List.Forall₂ (fun q c => Fits q (bytes c)) (segments text) (segments name))) ∧
      ∀ segment : String, text = "*/" ++ segment ++ "/*" →
        (pattern.isMatch name = true ↔ ("/" ++ segment ++ "/").toList <:+: name.toList) := by
  rcases parse_cases simple with ⟨segment, e, hp⟩ | ⟨none, hp⟩
  · refine ⟨_, hp, fun name hn hb => ⟨fun without => ?_, fun _ other => ?_, fun segment' e' => ?_⟩⟩
    · rw [e] at without
      exact absurd (by simp [special]) without
    · refine absurd ?_ (other (.ofList segment))
      rw [← String.toList_inj, toList_special, String.toList_ofList, e]
    · rw [e', toList_special, special, special, List.append_cancel_left_eq,
        List.append_cancel_right_eq] at e
      rw [isMatch_contains _ hn, occursIn_iff, slashed_eq hb, ← e]
      simp
  · refine ⟨_, hp, fun name hn hb => ⟨fun without => ?_, fun slash _ => ?_, fun segment e => ?_⟩⟩
    · rw [List.contains_eq_mem, decide_eq_false without]
      refine ⟨fun last hl => ?_, fun dir => ?_⟩
      · rw [segments, getLast?_splitAt] at hl
        obtain rfl := Option.some.inj hl
        rw [if_neg Bool.false_ne_true, isMatch_base _ hn, slashed_eq hb, isMatch_flatMap_piecesOf]
      · have below : dir ++ "/" ++ name ≠ "" := by simp
        rw [if_neg Bool.false_ne_true, isMatch_base _ hn, isMatch_base _ below, slashed_below,
          baseName_below]
    · rw [List.contains_eq_mem, decide_eq_true slash, if_pos rfl, isMatch_path _ hn, slashed_eq hb,
        isMatch_flatMap_piecesOf, fits_bytes_iff]
      rfl
    · rw [e] at none
      exact absurd (toList_special segment) (none segment.toList)

/-- A star does not reach over a slash, a directory before a name makes no difference to `Get?`, and a
    segment is asked for between slashes only. -/
theorem simple_patterns_internal_files :
    (∃ pattern, parse "internal/*/user.go" = .ok pattern ∧
      pattern.isMatch "internal/api/user.go" = true ∧
      ¬ pattern.isMatch "internal/api/v1/user.go" = true) ∧
    (∃ pattern, parse "Get?" = .ok pattern ∧ pattern.isMatch ("dto" ++ "/" ++ "GetX") = true) ∧
    ∃ pattern, parse "*/vendor/*" = .ok pattern ∧ pattern.isMatch "lib/vendor/x.go" = true ∧
      ¬ pattern.isMatch "vendor/x.go" = true := by
  refine ⟨?_, ?_, ?_⟩
  · obtain ⟨pattern, hp, h⟩ :=
      simple_patterns_by_components "internal/*/user.go" (by decide)
    have other : ∀ segment : String, "internal/*/user.go" ≠ "*/" ++ segment ++ "/*" := by
      intro segment e
      have first := congrArg (fun s => s.toList.head?) e
      simp at first
    refine ⟨pattern, hp, ?_, ?_⟩
    · rw [(h _ (by decide) (by decide)).2.1 (by decide) other]
      decide +kernel
    · rw [(h _ (by decide) (by decide)).2.1 (by decide) other]
      exact fun fits => absurd fits.length_eq (by decide)
  · obtain ⟨pattern, hp, h⟩ := simple_patterns_by_components "Get?" (by decide)
    obtain ⟨last, same⟩ := (h "GetX" (by decide) (by decide)).1 (by decide)
    refine ⟨pattern, hp, ?_⟩
    rw [same, last "GetX".toList (by decide)]
    decide +kernel
  · obtain ⟨pattern, hp, h⟩ := simple_patterns_by_components "*/vendor/*" (by decide)
    refine ⟨pattern, hp, ?_, ?_⟩
    · rw [(h _ (by decide) (by decide)).2.2 "vendor" rfl]
      decide
    · rw [(h _ (by decide) (by decide)).2.2 "vendor" rfl]
      decide

end FieldAudit.Pattern
