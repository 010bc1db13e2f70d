import Mathlib
import FieldAudit.Text.Blank

/-!
# Trimmed texts and their pieces

Trimming finds the one part of a text that neither begins nor ends with a blank and has only blanks around
it (`trim_eq_iff`). Cutting a text at a character undoes putting that character between pieces that do not
hold it (`splitAt_intercalate`).
-/

namespace FieldAudit.Text

/-- The text consists of blanks. -/
def AllBlank (s : List Char) : Prop := ∀ c ∈ s, isBlank c = true

/-- The text does not begin with a character of the class. -/
def NotLedBy (p : Char → Bool) (s : List Char) : Prop := ∀ c ∈ s.head?, ¬ p c = true

/-- The text neither begins nor ends with a blank. -/
def Trimmed (s : List Char) : Prop := NotLedBy isBlank s ∧ NotLedBy isBlank s.reverse

/-- The test of the first character decides whether the text is led by one of the class. -/
lemma not_any_head?_iff {p : Char → Bool} {s : List Char} :
    ¬ s.head?.any p = true ↔ NotLedBy p s := by
  rw [Option.any_eq_true]
  constructor
  · intro h c hc hp
    exact h ⟨c, hc, hp⟩
  · rintro h ⟨c, hc, hp⟩
    exact h c hc hp

instance : DecidablePred AllBlank := fun s =>
  decidable_of_iff (s.all isBlank = true) List.all_eq_true

instance (p : Char → Bool) : DecidablePred (NotLedBy p) := fun s =>
  decidable_of_iff (¬ s.head?.any p = true) not_any_head?_iff

instance : DecidablePred Trimmed := fun s =>
  inferInstanceAs (Decidable (NotLedBy isBlank s ∧ NotLedBy isBlank s.reverse))

/-! ## Trimming -/

section

variable {p : Char → Bool} {gap s : List Char}

/-- The empty text is blank. -/
lemma allBlank_nil : AllBlank [] := fun _ hc => absurd hc List.not_mem_nil

/-- Blank texts in a row are blank. -/
lemma AllBlank.append {tail : List Char} (hs : AllBlank s) (ht : AllBlank tail) :
    AllBlank (s ++ tail) := by
  intro c hc
  rcases List.mem_append.1 hc with h | h
  · exact hs c h
  · exact ht c h

/-- A blank text is blank backwards. -/
lemma AllBlank.reverse (h : AllBlank s) : AllBlank s.reverse :=
  fun c hc => h c (List.mem_reverse.1 hc)

/-- No blank is a printed ASCII character. -/
lemma toNat_of_isBlank {c : Char} (h : isBlank c = true) : c.toNat ≤ 0x20 ∨ 0x85 ≤ c.toNat := by
  rw [isBlank, inRanges, List.any_eq_true] at h
  obtain ⟨r, hr, hc⟩ := h
  rw [Bool.and_eq_true, decide_eq_true_eq, decide_eq_true_eq] at hc
  have apart : ∀ r ∈ blanks, r.2 ≤ 0x20 ∨ 0x85 ≤ r.1 := by decide
  rcases apart r hr with h | h
  · exact .inl (hc.2.trans h)
  · exact .inr (h.trans hc.1)

/-- A text is not led by the class if its first character is outside it. -/
lemma notLedBy_cons {c : Char} (h : ¬ p c = true) (s : List Char) : NotLedBy p (c :: s) := by
  rintro _ ⟨⟩
  exact h

/-- Nothing is dropped from a text that the class does not lead. -/
lemma dropWhile_of_notLedBy (h : NotLedBy p s) : s.dropWhile p = s := by
  cases s with
  | nil => rfl
  | cons c s => exact List.dropWhile_cons_of_neg (h c rfl)

/-- Nothing is taken from a text that the class does not lead. -/
lemma takeWhile_of_notLedBy (h : NotLedBy p s) : s.takeWhile p = [] := by
  cases s with
  | nil => rfl
  | cons c s => exact List.takeWhile_cons_of_neg (h c rfl)

/-- After dropping a class, the class does not lead the text. -/
lemma notLedBy_dropWhile (p : Char → Bool) (s : List Char) : NotLedBy p (s.dropWhile p) := by
  intro c hc
  have first := List.head?_dropWhile_not p s
  rw [Option.mem_def.1 hc] at first
  exact Bool.eq_false_iff.1 first

/-- A beginning of a text that the class does not lead is not led by it. -/
lemma NotLedBy.of_append {rest : List Char} (h : NotLedBy p (s ++ rest)) : NotLedBy p s := by
  cases s with
  | nil => exact fun c hc => absurd hc (Option.not_mem_none c)
  | cons c s => exact h

/-- A text that the class does not lead may be followed by a character outside it. -/
lemma NotLedBy.append {c : Char} (hs : NotLedBy p s) (hc : ¬ p c = true) (rest : List Char) :
    NotLedBy p (s ++ c :: rest) := by
  cases s with
  | nil => exact notLedBy_cons hc rest
  | cons d s => exact hs

/-- Blanks at the start do not matter to trimming. -/
lemma trimStartBy_append (h : AllBlank gap) (s : List Char) :
    trimStartBy isBlank (gap ++ s) = trimStartBy isBlank s :=
  List.dropWhile_append_of_pos h

/-- Every text is blanks before the text without them. -/
lemma exists_blank_append (s : List Char) : ∃ gap, AllBlank gap ∧ s = gap ++ trimStartBy isBlank s :=
  ⟨s.takeWhile isBlank, fun _ => List.mem_takeWhile_imp, List.takeWhile_append_dropWhile.symm⟩

/-- A trimmed text has no blanks at its ends. -/
lemma trimmed_trim (s : List Char) : Trimmed (trim s) := by
  constructor
  · obtain ⟨tail, front⟩ : trim s <+: s.dropWhile isBlank := List.rdropWhile_prefix isBlank _
    have led := notLedBy_dropWhile isBlank s
    rw [← front] at led
    exact led.of_append
  · rw [trim, trimEnd, trimEndBy, List.reverse_reverse]
    exact notLedBy_dropWhile isBlank _

/-- Trimming drops blanks behind a text that ends with none. -/
lemma trimEnd_append {tail : List Char} (hs : NotLedBy isBlank s.reverse) (ht : AllBlank tail) :
    trimEnd (s ++ tail) = s := by
  rw [trimEnd, trimEndBy, List.reverse_append, List.dropWhile_append_of_pos ht.reverse,
    dropWhile_of_notLedBy hs, List.reverse_reverse]

/-- Trimming leaves what stands between blanks and has none at its ends. -/
lemma trim_eq_iff {r : List Char} :
    trim s = r ↔
      Trimmed r ∧ ∃ gap tail, AllBlank gap ∧ AllBlank tail ∧ s = gap ++ r ++ tail := by
  constructor
  · rintro rfl
    refine ⟨trimmed_trim s, ?_⟩
    obtain ⟨gap, hg, start⟩ := exists_blank_append s
    obtain ⟨tail, ht, stop⟩ := exists_blank_append (trimStartBy isBlank s).reverse
    refine ⟨gap, tail.reverse, hg, ht.reverse, ?_⟩
    have cut : trimStartBy isBlank s = trim s ++ tail.reverse := by
      rw [← List.reverse_inj, stop, List.reverse_append, List.reverse_reverse, trim, trimEnd, trimEndBy,
        List.reverse_reverse]
      rfl
    rw [List.append_assoc, ← cut]
    exact start
  · rintro ⟨⟨led, ends⟩, gap, tail, hg, ht, rfl⟩
    rw [trim, List.append_assoc, trimStartBy_append hg]
    cases r with
    | nil =>
      have blank : trimStartBy isBlank ([] ++ tail) = [] := List.dropWhile_eq_nil_iff.2 ht
      rw [blank]
      rfl
    | cons c r =>
      have kept : trimStartBy isBlank (c :: r ++ tail) = c :: r ++ tail := dropWhile_of_notLedBy led
      rw [kept, trimEnd_append ends ht]

/-- Blanks at the end do not matter to trimming. -/
lemma trim_append_blank {tail : List Char} (s : List Char) (h : AllBlank tail) :
    trim (s ++ tail) = trim s := by
  obtain ⟨trimmed, gap, rest, hg, hr, e⟩ := trim_eq_iff.1 (rfl : trim s = trim s)
  refine trim_eq_iff.2 ⟨trimmed, gap, rest ++ tail, hg, hr.append h, ?_⟩
  rw [← List.append_assoc, ← e]

end

/-! ## Cutting -/

section

variable {sep : Char} {s t : List Char}

/-- There is at least one piece. -/
lemma splitAt_ne_nil (sep : Char) (s : List Char) : splitAt sep s ≠ [] := by
  cases s with
  | nil => exact List.cons_ne_nil _ _
  | cons c s =>
    unfold splitAt
    split
    · exact List.cons_ne_nil _ _
    · split
      · exact List.cons_ne_nil _ _
      · exact List.cons_ne_nil _ _

/-- The pieces before and behind a separator are those of both sides. -/
lemma splitAt_append_sep (sep : Char) (front back : List Char) :
    splitAt sep (front ++ sep :: back) = splitAt sep front ++ splitAt sep back := by
  induction front with
  | nil => simp [splitAt]
  | cons c front ih =>
    by_cases h : c = sep
    · simp [splitAt, h, ih]
    · simp only [List.cons_append, splitAt, h, if_false, ih]
      cases hf : splitAt sep front with
      | nil => exact absurd hf (splitAt_ne_nil sep front)
      | cons piece pieces => rfl

/-- A text without the separator is its own piece. -/
lemma splitAt_of_notMem (h : sep ∉ s) : splitAt sep s = [s] := by
  induction s with
  | nil => rfl
  | cons c s ih =>
    rw [List.mem_cons, not_or] at h
    rw [splitAt, if_neg (Ne.symm h.1), ih h.2]

/-- What does not hold the character is added to the last piece. -/
lemma splitAt_append_of_notMem (s : List Char) (h : sep ∉ t) :
    ∃ front last, splitAt sep s = front ++ [last] ∧ splitAt sep (s ++ t) = front ++ [last ++ t] := by
  induction s with
  | nil => exact ⟨[], [], rfl, splitAt_of_notMem h⟩
  | cons c s ih =>
    obtain ⟨front, last, hs, ht⟩ := ih
    by_cases hc : c = sep
    · refine ⟨[] :: front, last, ?_, ?_⟩
      · rw [splitAt, if_pos hc, hs, List.cons_append]
      · rw [List.cons_append, splitAt, if_pos hc, ht, List.cons_append]
    · rw [List.cons_append, splitAt, if_neg hc, hs, splitAt, if_neg hc, ht]
      cases front with
      | nil => exact ⟨[], c :: last, rfl, rfl⟩
      | cons piece front => exact ⟨(c :: piece) :: front, last, rfl, rfl⟩

/-- Pieces without the separator are recovered from the text that has it between them. -/
lemma splitAt_intercalate {pieces : List (List Char)} (ne : pieces ≠ [])
    (h : ∀ piece ∈ pieces, sep ∉ piece) : splitAt sep ([sep].intercalate pieces) = pieces := by
  induction pieces with
  | nil => exact absurd rfl ne
  | cons piece pieces ih =>
    have alone := splitAt_of_notMem (h piece List.mem_cons_self)
    cases pieces with
    | nil => rw [List.intercalate_singleton, alone]
    | cons next pieces =>
      rw [List.intercalate_cons_cons, List.append_assoc, List.singleton_append, splitAt_append_sep, alone,
        ih (List.cons_ne_nil _ _) fun p hp => h p (List.mem_cons_of_mem _ hp), List.singleton_append]

end

end FieldAudit.Text
