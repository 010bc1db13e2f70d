import Mathlib
import FieldAudit.Similarity

/-!
# Edits between texts

A text is turned into another one by inserting, deleting and substituting single characters, anywhere
and in any order. The table of distances is filled from the beginnings of the two texts and keeps one
row at a time; its last entry is the least number of such edits. In between stand alignments, which go
through both texts from one end to the other: edits can be composed into an alignment that costs no
more, and each entry of the table is the least cost of an alignment.
-/

namespace FieldAudit

namespace EditDistance

/-- One character is inserted, deleted or substituted somewhere in a text. -/
inductive Edit : List Char → List Char → Prop where
  | insert (front back : List Char) (c : Char) :
    Edit (front ++ back) (front ++ c :: back)
  | delete (front back : List Char) (c : Char) :
    Edit (front ++ c :: back) (front ++ back)
  | substitute (front back : List Char) (c d : Char) :
    Edit (front ++ c :: back) (front ++ d :: back)

/-- A text is turned into another one by a number of edits, one after the other. -/
inductive Edits : Nat → List Char → List Char → Prop where
  | refl (a : List Char) :
    Edits 0 a a
  | step {n : Nat} {a b c : List Char} :
    Edit a b →
    Edits n b c →
    Edits (n + 1) a c

/-- What it costs to have one character in the place of another. -/
def mismatch (c d : Char) : Nat := if c = d then 0 else 1

/-- Two texts are gone through together, at this cost: characters of either text are left alone or
    paired with one of the other. -/
inductive Aligned : Nat → List Char → List Char → Prop where
  | nil :
    Aligned 0 [] []
  | insert {n : Nat} {a b : List Char} (d : Char) :
    Aligned n a b →
    Aligned (n + 1) a (d :: b)
  | delete {n : Nat} {a b : List Char} (c : Char) :
    Aligned n a b →
    Aligned (n + 1) (c :: a) b
  | pair {n : Nat} {a b : List Char} (c d : Char) :
    Aligned n a b →
    Aligned (n + mismatch c d) (c :: a) (d :: b)

variable {n m : Nat} {a b c : List Char}

/-! ## Edits -/

/-- An edit can be taken back. -/
lemma Edit.symm (h : Edit a b) : Edit b a := by
  cases h with
  | insert front back c => exact .delete front back c
  | delete front back c => exact .insert front back c
  | substitute front back c d => exact .substitute front back d c

/-- An edit of a text is one of the text read backwards. -/
lemma Edit.reverse (h : Edit a b) : Edit a.reverse b.reverse := by
  cases h with
  | insert front back c => simpa using Edit.insert back.reverse front.reverse c
  | delete front back c => simpa using Edit.delete back.reverse front.reverse c
  | substitute front back c d => simpa using Edit.substitute back.reverse front.reverse c d

/-- An edit may happen behind a first character. -/
lemma Edit.cons (x : Char) (h : Edit a b) : Edit (x :: a) (x :: b) := by
  cases h with
  | insert front back c => exact .insert (x :: front) back c
  | delete front back c => exact .delete (x :: front) back c
  | substitute front back c d => exact .substitute (x :: front) back c d

/-- Edits can be made one after the other. -/
lemma Edits.trans (h : Edits n a b) (h' : Edits m b c) : Edits (n + m) a c := by
  induction h with
  | refl a =>
    rw [Nat.zero_add]
    exact h'
  | step he _ ih =>
    rw [Nat.succ_add]
    exact .step he (ih h')

/-- A single edit is one step. -/
lemma Edit.edits (h : Edit a b) : Edits 1 a b := .step h (.refl b)

/-- A series of edits can be taken back in as many steps. -/
lemma Edits.symm (h : Edits n a b) : Edits n b a := by
  induction h with
  | refl a => exact .refl a
  | step he _ ih => exact ih.trans he.symm.edits

/-- What keeps single edits keeps their number. -/
lemma Edits.map {f : List Char → List Char} (hf : ∀ {a b}, Edit a b → Edit (f a) (f b))
    (h : Edits n a b) : Edits n (f a) (f b) := by
  induction h with
  | refl a => exact .refl (f a)
  | step he _ ih => exact .step (hf he) ih

/-- No step leads only to the text itself. -/
lemma edits_zero_iff : Edits 0 a b ↔ a = b := by
  constructor
  · intro h
    cases h with
    | refl => rfl
  · rintro rfl
    exact .refl a

/-! ## Alignments -/

/-- A character agrees with itself. -/
@[simp] lemma mismatch_self (c : Char) : mismatch c c = 0 := if_pos rfl

/-- Exchanging a character costs one at most. -/
lemma mismatch_le_one (c d : Char) : mismatch c d ≤ 1 := by
  unfold mismatch
  split
  · exact Nat.zero_le 1
  · exact Nat.le_refl 1

/-- Exchanging a character by way of another one is not cheaper. -/
lemma mismatch_triangle (c d e : Char) : mismatch c e ≤ mismatch c d + mismatch d e := by
  by_cases h : c = d
  · subst h
    rw [mismatch_self, Nat.zero_add]
  · have hcd : mismatch c d = 1 := if_neg h
    have hce := mismatch_le_one c e
    omega

/-- Texts stay aligned at the same cost behind a common beginning. -/
lemma Aligned.append (front : List Char) (h : Aligned n a b) :
    Aligned n (front ++ a) (front ++ b) := by
  induction front with
  | nil => exact h
  | cons x front ih => simpa using ih.pair x x

/-- A text is aligned with itself at no cost. -/
lemma Aligned.refl (a : List Char) : Aligned 0 a a := by
  simpa using Aligned.nil.append a

/-- All characters are inserted into the empty text. -/
lemma aligned_nil_left (b : List Char) : Aligned b.length [] b := by
  induction b with
  | nil => exact .nil
  | cons d b ih => exact ih.insert d

/-- All characters are deleted to get the empty text. -/
lemma aligned_nil_right (a : List Char) : Aligned a.length a [] := by
  induction a with
  | nil => exact .nil
  | cons c a ih => exact ih.delete c

/-- No alignment needs to cost more than the longer text is long. -/
lemma exists_aligned_le_max (a b : List Char) : ∃ n ≤ max a.length b.length, Aligned n a b := by
  induction a generalizing b with
  | nil => exact ⟨b.length, le_max_right _ _, aligned_nil_left b⟩
  | cons c a ih =>
    cases b with
    | nil => exact ⟨_, le_max_left _ _, aligned_nil_right (c :: a)⟩
    | cons d b =>
      obtain ⟨n, hn, h⟩ := ih b
      refine ⟨n + mismatch c d, ?_, h.pair c d⟩
      rw [List.length_cons, List.length_cons, Nat.add_max_add_right]
      exact Nat.add_le_add hn (mismatch_le_one c d)

/-- Characters at the start can be deleted for one each. -/
lemma Aligned.deleteAll (gone : List Char) (h : Aligned n a b) :
    Aligned (gone.length + n) (gone ++ a) b := by
  induction gone with
  | nil =>
    rw [List.length_nil, Nat.zero_add]
    exact h
  | cons x gone ih =>
    rw [List.length_cons, Nat.succ_add]
    exact ih.delete x

/-- After some deletions the first character of the second text is inserted or paired. -/
lemma Aligned.cons_right {d : Char} (h : Aligned n a (d :: b)) :
    ∃ gone rest k, a = gone ++ rest ∧
      (Aligned k rest b ∧ n = gone.length + (k + 1) ∨
        ∃ x left, rest = x :: left ∧ Aligned k left b ∧ n = gone.length + (k + mismatch x d)) := by
  generalize hd : d :: b = db at h
  induction h with
  | nil => cases hd
  | @insert n a _ _ h _ =>
    cases hd
    exact ⟨[], a, n, rfl, .inl ⟨h, (Nat.zero_add _).symm⟩⟩
  | @delete _ _ _ x _ ih =>
    obtain ⟨gone, rest, k, rfl, hk⟩ := ih hd
    refine ⟨x :: gone, rest, k, rfl, ?_⟩
    rcases hk with ⟨h, rfl⟩ | ⟨y, left, rfl, h, rfl⟩
    · exact .inl ⟨h, (Nat.succ_add _ _).symm⟩
    · exact .inr ⟨y, left, rfl, h, (Nat.succ_add _ _).symm⟩
  | @pair n a _ x _ h _ =>
    cases hd
    exact ⟨[], x :: a, n, rfl, .inr ⟨x, a, rfl, h, (Nat.zero_add _).symm⟩⟩

/-- Alignments are composed along the text in the middle. What is deleted before a character of it stays
    deleted, and what is inserted after it stays inserted. -/
lemma Aligned.trans (h : Aligned n a b) (h' : Aligned m b c) : ∃ k ≤ n + m, Aligned k a c := by
  induction h' generalizing n a with
  | nil => exact ⟨n, Nat.le_add_right n 0, h⟩
  | insert e _ ih =>
    obtain ⟨k, hk, hac⟩ := ih h
    exact ⟨k + 1, Nat.succ_le_succ hk, hac.insert e⟩
  | delete d _ ih =>
    obtain ⟨gone, rest, l, rfl, ⟨hl, rfl⟩ | ⟨x, left, rfl, hl, rfl⟩⟩ := h.cons_right
    · obtain ⟨k, hk, hac⟩ := ih hl
      exact ⟨gone.length + k, by omega, hac.deleteAll gone⟩
    · obtain ⟨k, hk, hac⟩ := ih hl
      exact ⟨gone.length + (k + 1), by omega, (hac.delete x).deleteAll gone⟩
  | pair d e _ ih =>
    obtain ⟨gone, rest, l, rfl, ⟨hl, rfl⟩ | ⟨x, left, rfl, hl, rfl⟩⟩ := h.cons_right
    · obtain ⟨k, hk, hac⟩ := ih hl
      exact ⟨gone.length + (k + 1), by omega, (hac.insert e).deleteAll gone⟩
    · obtain ⟨k, hk, hac⟩ := ih hl
      have hxe := mismatch_triangle x d e
      exact ⟨gone.length + (k + mismatch x e), by omega, (hac.pair x e).deleteAll gone⟩

/-- An alignment is carried out by as many edits as it costs. -/
lemma Aligned.edits (h : Aligned n a b) : Edits n a b := by
  induction h with
  | nil => exact .refl []
  | @insert n a b d _ ih => exact ih.trans (Edit.insert [] b d).edits
  | @delete n a b c _ ih => exact .step (.delete [] a c) ih
  | @pair n a b c d _ ih =>
    have kept : Edits n (c :: a) (c :: b) := ih.map (Edit.cons c)
    by_cases h : c = d
    · subst h
      rw [mismatch_self]
      exact kept
    · rw [mismatch, if_neg h]
      exact kept.trans (Edit.substitute [] b c d).edits

/-- A single edit is an alignment that costs one at most. -/
lemma Edit.aligned (h : Edit a b) : ∃ k ≤ 1, Aligned k a b := by
  cases h with
  | insert front back c =>
    exact ⟨1, Nat.le_refl 1, ((Aligned.refl back).insert c).append front⟩
  | delete front back c =>
    exact ⟨1, Nat.le_refl 1, ((Aligned.refl back).delete c).append front⟩
  | substitute front back c d =>
    refine ⟨0 + mismatch c d, ?_, ((Aligned.refl back).pair c d).append front⟩
    rw [Nat.zero_add]
    exact mismatch_le_one c d

/-- Edits one after the other can be done in one go through the texts. -/
lemma Edits.aligned (h : Edits n a b) : ∃ k ≤ n, Aligned k a b := by
  induction h with
  | refl a => exact ⟨0, Nat.le_refl 0, .refl a⟩
  | step he _ ih =>
    obtain ⟨k, hk, hab⟩ := he.aligned
    obtain ⟨l, hl, hbc⟩ := ih
    obtain ⟨r, hr, hac⟩ := hab.trans hbc
    exact ⟨r, by omega, hac⟩

/-! ## The table of distances -/

/-- The least cost of an alignment. -/
def LeastCost (a b : List Char) (n : Nat) : Prop := IsLeast {n | Aligned n a b} n

/-- The least cost from the empty text is the length of the other one. -/
lemma leastCost_nil_left (b : List Char) : LeastCost [] b b.length := by
  refine ⟨aligned_nil_left b, fun n hn => ?_⟩
  induction b generalizing n with
  | nil => exact Nat.zero_le n
  | cons d b ih =>
    cases hn with
    | insert _ hn => exact Nat.succ_le_succ (ih _ hn)

/-- A character in front of the first text costs one more, where the other text is empty. -/
lemma LeastCost.cons_nil {c : Char} (h : LeastCost a [] n) : LeastCost (c :: a) [] (n + 1) := by
  refine ⟨h.1.delete c, fun m hm => ?_⟩
  cases hm with
  | delete _ hm => exact Nat.succ_le_succ (h.2 hm)

/-- An entry of the table is found from the entries above it, before it and at the corner between. -/
lemma LeastCost.cons_cons {c d : Char} {up left diagonal : Nat} (hup : LeastCost a (d :: b) up)
    (hleft : LeastCost (c :: a) b left) (hdiagonal : LeastCost a b diagonal) :
    LeastCost (c :: a) (d :: b) (min (min (up + 1) (left + 1)) (diagonal + mismatch c d)) := by
  constructor
  · change Aligned _ (c :: a) (d :: b)
    rcases min_choice (min (up + 1) (left + 1)) (diagonal + mismatch c d) with e | e
    · rw [e]
      rcases min_choice (up + 1) (left + 1) with e | e
      · rw [e]
        exact hup.1.delete c
      · rw [e]
        exact hleft.1.insert d
    · rw [e]
      exact hdiagonal.1.pair c d
  · intro k hk
    cases hk with
    | insert _ h =>
      have bound := hleft.2 h
      omega
    | delete _ h =>
      have bound := hup.2 h
      omega
    | pair _ _ h =>
      have bound := hdiagonal.2 h
      omega

/-- The rest of a row for one beginning of the source: the least costs from it to the beginnings of the
    target that end in or after `done`. Beginnings are written with their last character first. -/
inductive Row (a : List Char) : List Char → List Char → List Nat → Prop where
  | last {n : Nat} {done : List Char} :
    LeastCost a done n →
    Row a done [] [n]
  | more {n : Nat} {done rest : List Char} {d : Char} {row : List Nat} :
    LeastCost a done n →
    Row a (d :: done) rest row →
    Row a done (d :: rest) (n :: row)

variable {source target done rest : List Char} {row : List Nat}

/-- A row begins with the least cost of what has been read of the target. -/
lemma Row.exists_cons (h : Row a done rest row) :
    ∃ n later, row = n :: later ∧ LeastCost a done n := by
  cases h with
  | last hn => exact ⟨_, [], rfl, hn⟩
  | more hn _ => exact ⟨_, _, rfl, hn⟩

/-- The first row counts the characters of the target. -/
lemma row_range' (done rest : List Char) :
    Row [] done rest (List.range' done.length (rest.length + 1)) := by
  induction rest generalizing done with
  | nil => exact .last (leastCost_nil_left done)
  | cons d rest ih => exact .more (leastCost_nil_left done) (ih (d :: done))

/-- Extending a row from the left gives the row for one more character of the source. -/
lemma Row.extendRow {c : Char} {left : Nat} (h : Row a done rest row)
    (hleft : LeastCost (c :: a) done left) :
    Row (c :: a) done rest (left :: extendRow c left rest row) := by
  induction rest generalizing done left row with
  | nil => exact .last hleft
  | cons d rest ih =>
    cases h with
    | more hdiagonal h =>
      obtain ⟨up, above, rfl, hup⟩ := h.exists_cons
      exact .more hleft (ih h (hup.cons_cons hleft hdiagonal))

/-- One more character of the source leads to the next row. -/
lemma Row.nextRow (c : Char) (h : Row a [] target row) :
    Row (c :: a) [] target (nextRow target row c) := by
  obtain ⟨n, later, rfl, hn⟩ := h.exists_cons
  exact h.extendRow hn.cons_nil

/-- The rows for the characters of the source follow from one another. -/
lemma Row.foldl_nextRow (source : List Char) (h : Row a [] target row) :
    Row (source.reverse ++ a) [] target (source.foldl (EditDistance.nextRow target) row) := by
  induction source generalizing a row with
  | nil => exact h
  | cons c source ih =>
    rw [List.foldl_cons, List.reverse_cons, List.append_assoc]
    exact ih (h.nextRow c)

/-- The last row has the least costs for the whole source. -/
lemma row_lastRow (source target : List Char) :
    Row source.reverse [] target (lastRow source target) := by
  have first : Row [] [] target (List.range (target.length + 1)) := by
    rw [List.range_eq_range']
    exact row_range' [] target
  have all := first.foldl_nextRow source
  rw [List.append_nil] at all
  exact all

/-- The last entry of a row is the least cost for the whole target. -/
lemma Row.getLastD (h : Row a done rest row) (k : Nat) :
    LeastCost a (rest.reverse ++ done) (row.getLastD k) := by
  induction h generalizing k with
  | last hn => exact hn
  | @more n done rest d row _ _ ih =>
    rw [List.reverse_cons, List.append_assoc, List.singleton_append, List.getLastD_cons]
    exact ih n

end EditDistance

open EditDistance

/-! ## The distance -/

/-- The distance is the least cost of an alignment of the texts read backwards. -/
lemma leastCost_editDistance (source target : List Char) :
    LeastCost source.reverse target.reverse (editDistance source target) := by
  have last := (row_lastRow source target).getLastD 0
  rw [List.append_nil] at last
  exact last

/-- The distance is the least number of edits, whichever they are. -/
lemma isLeast_edits (a b : List Char) : IsLeast {n | Edits n a b} (editDistance a b) := by
  obtain ⟨attained, least⟩ := leastCost_editDistance a b
  constructor
  · have back : Edits (editDistance a b) a.reverse.reverse b.reverse.reverse :=
      attained.edits.map Edit.reverse
    rwa [List.reverse_reverse, List.reverse_reverse] at back
  · intro n hn
    have flipped : Edits n a.reverse b.reverse := Edits.map Edit.reverse hn
    obtain ⟨k, hk, h⟩ := flipped.aligned
    exact (least h).trans hk

/-- The distance is the same in both directions. -/
lemma editDistance_comm (a b : List Char) : editDistance a b = editDistance b a :=
  le_antisymm ((isLeast_edits a b).2 (isLeast_edits b a).1.symm)
    ((isLeast_edits b a).2 (isLeast_edits a b).1.symm)

/-- Only equal texts have the distance zero. -/
lemma editDistance_eq_zero_iff {a b : List Char} : editDistance a b = 0 ↔ a = b := by
  constructor
  · intro h
    have attained := (isLeast_edits a b).1
    rw [h] at attained
    exact edits_zero_iff.1 attained
  · rintro rfl
    exact Nat.le_zero.1 ((isLeast_edits a a).2 (.refl a))

/-- The way by a third text is not shorter. -/
lemma editDistance_triangle (a b c : List Char) :
    editDistance a c ≤ editDistance a b + editDistance b c :=
  (isLeast_edits a c).2 ((isLeast_edits a b).1.trans (isLeast_edits b c).1)

/-- The distance is at most the length of the longer text. -/
lemma editDistance_le_max (a b : List Char) : editDistance a b ≤ max a.length b.length := by
  obtain ⟨n, hn, h⟩ := exists_aligned_le_max a b
  exact ((isLeast_edits a b).2 h.edits).trans hn

/-! ## The similarity in exact arithmetic -/

/-- The similarity of two names, with the numbers of this kind. -/
def similarityIn {K : Type} [OfNat K 1] [Sub K] [Div K] (number : Nat → K) (a b : String) : K :=
  let a := Text.lower a.toList
  let b := Text.lower b.toList
  let longest := max a.length b.length
  if longest = 0 then 1 else 1 - number (editDistance a b) / number longest

/-- The similarity is the general ratio, computed with floating-point numbers. -/
lemma similarity_eq (a b : String) : similarity a b = similarityIn Nat.toFloat a b := rfl

/-- Of a whole that is not empty, a part is left over that is between none and all of it. -/
lemma one_sub_div_bounds {d longest : Nat} (hd : d ≤ longest) (hl : longest ≠ 0) :
    0 ≤ 1 - (d : ℚ) / longest ∧ 1 - (d : ℚ) / longest ≤ 1 ∧
      (1 - (d : ℚ) / longest = 1 ↔ d = 0) := by
  have pos : (0 : ℚ) < longest := by exact_mod_cast Nat.pos_of_ne_zero hl
  have le : (d : ℚ) ≤ longest := by exact_mod_cast hd
  refine ⟨?_, ?_, ?_⟩
  · rw [sub_nonneg]
    exact (div_le_one pos).2 le
  · rw [sub_le_self_iff]
    positivity
  · rw [sub_eq_self, div_eq_zero_iff, Nat.cast_eq_zero, or_iff_left pos.ne']

/-- The exact ratio lies between zero and one, and it is one exactly for texts that are equal up to
    case. -/
lemma similarityIn_rat_bounds (a b : String) :
    0 ≤ similarityIn ((↑) : ℕ → ℚ) a b ∧ similarityIn ((↑) : ℕ → ℚ) a b ≤ 1 ∧
      (similarityIn ((↑) : ℕ → ℚ) a b = 1 ↔ Text.lower a.toList = Text.lower b.toList) := by
  unfold similarityIn
  generalize Text.lower a.toList = a
  generalize Text.lower b.toList = b
  by_cases hl : max a.length b.length = 0
  · obtain ⟨ha, hb⟩ := Nat.max_eq_zero_iff.1 hl
    obtain rfl := List.length_eq_zero_iff.1 ha
    obtain rfl := List.length_eq_zero_iff.1 hb
    norm_num
  · simp only [hl, if_false]
    rw [← editDistance_eq_zero_iff]
    exact one_sub_div_bounds (editDistance_le_max a b) hl

/-- The distance of two texts is the least number of insertions, deletions and substitutions of single
    characters that turn one into the other. So it is zero exactly between equal texts, satisfies the
    triangle inequality and is never more than the longer text is long. The similarity of two names,
    in exact arithmetic, is therefore between zero and one, and one exactly if they are equal up to
    case. -/
theorem editDistance_least_and_similarity (a b : List Char) :
    IsLeast {n | Edits n a b} (editDistance a b) ∧
      (editDistance a b = 0 ↔ a = b) ∧
      (∀ c, editDistance a c ≤ editDistance a b + editDistance b c) ∧
      editDistance a b ≤ max a.length b.length ∧
      ∀ x y : String, similarity x y = similarityIn Nat.toFloat x y ∧
        0 ≤ similarityIn ((↑) : ℕ → ℚ) x y ∧ similarityIn ((↑) : ℕ → ℚ) x y ≤ 1 ∧
        (similarityIn ((↑) : ℕ → ℚ) x y = 1 ↔ Text.lower x.toList = Text.lower y.toList) := by
  refine ⟨isLeast_edits a b, editDistance_eq_zero_iff, editDistance_triangle a b,
    editDistance_le_max a b, fun x y => ?_⟩
  exact ⟨similarity_eq x y, similarityIn_rat_bounds x y⟩

example : editDistance "kitten".toList "sitting".toList = 3 := by decide

end FieldAudit
