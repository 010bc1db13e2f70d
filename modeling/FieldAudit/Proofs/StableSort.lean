import Mathlib

/-!
# Sorting by a key keeps what it does not tell apart

A merge sort by a key inserts one element after another, each before the elements that have its key.
A key therefore cuts the sorted list into what sorts before it, what has this key, in the order of
the given list, and what sorts after it; and what stands around a block of elements with one key
does not depend on the block. So a sorted list depends only on what a list holds at each key, and a
matching of two lists that respects keys is kept.
-/

namespace FieldAudit

variable {α κ : Type} [LinearOrder κ] {key : α → κ}

/-- The order by a key. -/
def byKey (key : α → κ) (a b : α) : Bool := decide (key a ≤ key b)

/-- The comparison by keys is that of the keys. -/
@[simp] lemma byKey_iff {a b : α} : byKey key a b = true ↔ key a ≤ key b := decide_eq_true_iff

/-- The order by a key is transitive. -/
lemma byKey_trans (key : α → κ) (a b c : α) (hab : byKey key a b = true)
    (hbc : byKey key b c = true) : byKey key a c = true :=
  byKey_iff.2 ((byKey_iff.1 hab).trans (byKey_iff.1 hbc))

/-- The order by a key is total. -/
lemma byKey_total (key : α → κ) (a b : α) : (byKey key a b || byKey key b a) = true := by
  simpa using le_total (key a) (key b)

/-- The keys of a sorted list ascend. -/
lemma mergeSort_byKey_ascends (key : α → κ) (l : List α) :
    (l.mergeSort (byKey key)).Pairwise fun a b => key a ≤ key b := by
  simpa only [byKey_iff] using List.pairwise_mergeSort (byKey_trans key) (byKey_total key) l

/-- An element goes before all that its key does not exceed. -/
lemma orderedInsert_append_of_le {x : α} {after : List α} (ha : ∀ b ∈ after, key x ≤ key b)
    (l : List α) :
    (l ++ after).orderedInsert (key · ≤ key ·) x = l.orderedInsert (key · ≤ key ·) x ++ after := by
  induction l with
  | nil =>
    cases after with
    | nil => rfl
    | cons b after => simp [ha b List.mem_cons_self]
  | cons c l ih =>
    by_cases h : key x ≤ key c
    · simp [h]
    · simp [h, ih]

/-- An element goes after all with a smaller key. -/
lemma orderedInsert_append_of_lt {x : α} {l : List α} (hl : ∀ b ∈ l, key b < key x)
    (after : List α) :
    (l ++ after).orderedInsert (key · ≤ key ·) x = l ++ after.orderedInsert (key · ≤ key ·) x := by
  induction l with
  | nil => rfl
  | cons c l ih =>
    obtain ⟨hc, hl⟩ := List.forall_mem_cons.1 hl
    simp [not_le.2 hc, ih hl]

/-- Sorting inserts the first element into the sorted rest. -/
lemma mergeSort_byKey_cons (x : α) (l : List α) :
    (x :: l).mergeSort (byKey key)
      = (l.mergeSort (byKey key)).orderedInsert (key · ≤ key ·) x := by
  obtain ⟨l₁, l₂, e, e', h₁⟩ := List.mergeSort_cons (byKey_trans key) (byKey_total key) x l
  have hs := mergeSort_byKey_ascends key (x :: l)
  rw [e] at hs
  have hlt : ∀ b ∈ l₁, key b < key x := fun b hb => by simpa [byKey] using h₁ b hb
  have hle : ∀ b ∈ l₂, key x ≤ key b := (List.pairwise_cons.1 (List.pairwise_append.1 hs).2.1).1
  rw [e, e', orderedInsert_append_of_lt hlt]
  exact congrArg (l₁ ++ ·) (orderedInsert_append_of_le hle []).symm

/-- A key cuts a sorted list: what has this key stands in the middle, in its old order. -/
lemma mergeSort_byKey_cut (k : κ) (l : List α) :
    l.mergeSort (byKey key)
      = (l.filter (key · < k)).mergeSort (byKey key) ++ (l.filter (key · = k)
        ++ (l.filter (k < key ·)).mergeSort (byKey key)) := by
  induction l with
  | nil => simp
  | cons x l ih =>
    rw [mergeSort_byKey_cons, ih]
    -- the part that the new element belongs to is the only one that changes
    rcases lt_trichotomy (key x) k with h | h | h
    · have ha : ∀ b ∈ l.filter (key · = k) ++ (l.filter (k < key ·)).mergeSort (byKey key),
          key x ≤ key b := by
        intro b hb
        simp only [List.mem_append, List.mem_filter, List.mem_mergeSort, decide_eq_true_eq] at hb
        obtain ⟨_, e⟩ | ⟨_, hk⟩ := hb
        · exact e ▸ h.le
        · exact (h.trans hk).le
      rw [orderedInsert_append_of_le ha, ← mergeSort_byKey_cons]
      simp [h, h.ne, h.le]
    · have hl : ∀ b ∈ (l.filter (key · < k)).mergeSort (byKey key), key b < key x := by
        intro b hb
        simp only [List.mem_filter, List.mem_mergeSort, decide_eq_true_eq] at hb
        exact h ▸ hb.2
      have ha : ∀ b ∈ l.filter (key · = k) ++ (l.filter (k < key ·)).mergeSort (byKey key),
          key x ≤ key b := by
        intro b hb
        simp only [List.mem_append, List.mem_filter, List.mem_mergeSort, decide_eq_true_eq] at hb
        obtain ⟨_, e⟩ | ⟨_, hk⟩ := hb
        · exact (h.trans e.symm).le
        · exact (h ▸ hk).le
      rw [orderedInsert_append_of_lt hl]
      simpa [h] using orderedInsert_append_of_le ha []
    · have hl : ∀ b ∈ (l.filter (key · < k)).mergeSort (byKey key) ++ l.filter (key · = k),
          key b < key x := by
        intro b hb
        simp only [List.mem_append, List.mem_filter, List.mem_mergeSort, decide_eq_true_eq] at hb
        obtain ⟨_, hk⟩ | ⟨_, e⟩ := hb
        · exact hk.trans h
        · exact e ▸ h
      rw [← List.append_assoc, orderedInsert_append_of_lt hl, ← mergeSort_byKey_cons]
      simp [h, h.ne', h.le]

/-- What is sorted around a block of elements with one key does not depend on the block. -/
lemma mergeSort_byKey_block (key : α → κ) (k : κ) (xs ys : List α) :
    ∃ l₁ l₂, ∀ block : List α, (∀ b ∈ block, key b = k) →
      (xs ++ (block ++ ys)).mergeSort (byKey key) = l₁ ++ (block ++ l₂) := by
  refine ⟨((xs ++ ys).filter (key · < k)).mergeSort (byKey key) ++ xs.filter (key · = k),
    ys.filter (key · = k) ++ ((xs ++ ys).filter (k < key ·)).mergeSort (byKey key), ?_⟩
  intro block hb
  have hlt : block.filter (key · < k) = [] := by
    simpa [List.filter_eq_nil_iff] using fun b h => (hb b h).ge
  have heq : block.filter (key · = k) = block := by
    simpa [List.filter_eq_self] using hb
  have hgt : block.filter (k < key ·) = [] := by
    simpa [List.filter_eq_nil_iff] using fun b h => (hb b h).le
  rw [mergeSort_byKey_cut k]
  simp only [List.filter_append, hlt, heq, hgt, List.nil_append, List.append_assoc]

/-! ## What a sorted list depends on -/

/-- Sorting keeps what has one key, in its order. -/
lemma filter_mergeSort_byKey (k : κ) (l : List α) :
    (l.mergeSort (byKey key)).filter (key · = k) = l.filter (key · = k) := by
  have hlt : ((l.filter (key · < k)).mergeSort (byKey key)).filter (key · = k) = [] := by
    simpa [List.filter_eq_nil_iff] using fun a _ (h : key a < k) => h.ne
  have hgt : ((l.filter (k < key ·)).mergeSort (byKey key)).filter (key · = k) = [] := by
    simpa [List.filter_eq_nil_iff] using fun a _ (h : k < key a) => h.ne'
  rw [mergeSort_byKey_cut k, List.filter_append, List.filter_append, hlt, hgt, List.nil_append,
    List.append_nil, List.filter_filter]
  simp

/-- Lists that hold the same at each key have the same elements. -/
lemma mem_iff_of_filter_eq {l m : List α} (h : ∀ k, l.filter (key · = k) = m.filter (key · = k))
    (a : α) : a ∈ l ↔ a ∈ m := by
  have e : a ∈ l.filter (key · = key a) ↔ a ∈ m.filter (key · = key a) := by rw [h]
  simpa using e

/-- An ascending list is determined by what it holds at each key. -/
lemma eq_of_ascends_of_filter_eq {l m : List α} (hl : l.Pairwise fun a b => key a ≤ key b)
    (hm : m.Pairwise fun a b => key a ≤ key b)
    (h : ∀ k, l.filter (key · = k) = m.filter (key · = k)) : l = m := by
  induction l generalizing m with
  | nil =>
    cases m with
    | nil => rfl
    | cons b m => exact absurd ((mem_iff_of_filter_eq h b).2 List.mem_cons_self) List.not_mem_nil
  | cons a l ih =>
    cases m with
    | nil => exact absurd ((mem_iff_of_filter_eq h a).1 List.mem_cons_self) List.not_mem_nil
    | cons b m =>
      obtain ⟨hal, hl'⟩ := List.pairwise_cons.1 hl
      obtain ⟨hbm, hm'⟩ := List.pairwise_cons.1 hm
      -- both heads have the least key, so each stands first among the elements with that key
      have hab : key a ≤ key b := by
        rcases List.mem_cons.1 ((mem_iff_of_filter_eq h b).2 List.mem_cons_self) with e | hb
        · exact e ▸ le_rfl
        · exact hal b hb
      have hba : key b ≤ key a := by
        rcases List.mem_cons.1 ((mem_iff_of_filter_eq h a).1 List.mem_cons_self) with e | ha
        · exact e ▸ le_rfl
        · exact hbm a ha
      have hk : key b = key a := le_antisymm hba hab
      have e := h (key a)
      rw [List.filter_cons_of_pos (by simp), List.filter_cons_of_pos (by simpa using hk)] at e
      obtain rfl : a = b := (List.cons.inj e).1
      congr 1
      apply ih hl' hm'
      intro k
      have e := h k
      by_cases ha : key a = k <;> simpa [ha] using e

/-- Lists that hold the same at each key are sorted alike. -/
lemma mergeSort_byKey_congr {l m : List α} (h : ∀ k, l.filter (key · = k) = m.filter (key · = k)) :
    l.mergeSort (byKey key) = m.mergeSort (byKey key) := by
  apply eq_of_ascends_of_filter_eq (mergeSort_byKey_ascends key l) (mergeSort_byKey_ascends key m)
  intro k
  rw [filter_mergeSort_byKey, filter_mergeSort_byKey, h]

/-- Where each key comes from one source only, what the sources hold at a key does not depend on
    their order. -/
lemma filter_flatMap_of_perm {β : Type} {g : β → List α} {xs ys : List β} (hp : xs.Perm ys)
    (hx : ∀ x ∈ xs, ∀ y ∈ xs, ∀ a ∈ g x, ∀ b ∈ g y, key a = key b → x = y) (k : κ) :
    (xs.flatMap g).filter (key · = k) = (ys.flatMap g).filter (key · = k) := by
  induction hp with
  | nil => rfl
  | cons x _ ih =>
    rw [List.flatMap_cons, List.flatMap_cons, List.filter_append, List.filter_append]
    congr 1
    apply ih
    intro y hy z hz
    exact hx y (List.mem_cons_of_mem _ hy) z (List.mem_cons_of_mem _ hz)
  | swap x y l =>
    simp only [List.flatMap_cons, List.filter_append]
    -- two sources that both hold something at the key are one source
    rcases hgx : (g x).filter (key · = k) with _ | ⟨a, as⟩
    · simp
    · rcases hgy : (g y).filter (key · = k) with _ | ⟨b, bs⟩
      · simp
      · obtain ⟨ha, ka⟩ := List.mem_filter.1 (hgx ▸ List.mem_cons_self : a ∈ _)
        obtain ⟨hb, kb⟩ := List.mem_filter.1 (hgy ▸ List.mem_cons_self : b ∈ _)
        have kab : key a = key b := by
          rw [of_decide_eq_true ka, of_decide_eq_true kb]
        obtain rfl : x = y :=
          hx x (List.mem_cons_of_mem _ List.mem_cons_self) y List.mem_cons_self a ha b hb kab
        rw [← hgx, ← hgy]
  | trans h₁ _ ih₁ ih₂ =>
    rw [ih₁ hx, ih₂]
    intro y hy z hz
    exact hx y (h₁.mem_iff.2 hy) z (h₁.mem_iff.2 hz)

/-- Where each key comes from one source only, the sorted list does not depend on the order of the
    sources. -/
lemma mergeSort_byKey_of_perm {β : Type} {g : β → List α} {xs ys : List β} (hp : xs.Perm ys)
    (hx : ∀ x ∈ xs, ∀ y ∈ xs, ∀ a ∈ g x, ∀ b ∈ g y, key a = key b → x = y) :
    (xs.flatMap g).mergeSort (byKey key) = (ys.flatMap g).mergeSort (byKey key) :=
  mergeSort_byKey_congr fun k => filter_flatMap_of_perm hp hx k

/-- Where elements with one key are equal, the sorted list does not depend on their order. -/
lemma mergeSort_byKey_of_perm_of_inj {xs ys : List α} (hp : xs.Perm ys)
    (hx : ∀ x ∈ xs, ∀ y ∈ xs, key x = key y → x = y) :
    xs.mergeSort (byKey key) = ys.mergeSort (byKey key) := by
  have h : (xs.flatMap fun a => [a]).mergeSort (byKey key)
      = (ys.flatMap fun a => [a]).mergeSort (byKey key) := by
    apply mergeSort_byKey_of_perm hp
    intro x hx' y hy' a ha b hb e
    obtain rfl := List.mem_singleton.1 ha
    obtain rfl := List.mem_singleton.1 hb
    exact hx _ hx' _ hy' e
  simpa using h

/-- What is picked from a sorted list is sorted, where the picked elements keep their keys. -/
lemma filterMap_mergeSort_byKey {β : Type} {key' : β → κ} {f : α → Option β}
    (hf : ∀ a b, f a = some b → key' b = key a) (l : List α) :
    (l.mergeSort (byKey key)).filterMap f = (l.filterMap f).mergeSort (byKey key') := by
  have pick (k : κ) (m : List α) :
      (m.filterMap f).filter (key' · = k) = (m.filter (key · = k)).filterMap f := by
    induction m with
    | nil => rfl
    | cons a m ih =>
      cases h : f a with
      | none => by_cases hk : key a = k <;> simp [h, hk, ih]
      | some b => by_cases hk : key a = k <;> simp [h, hk, ih, hf a b h]
  have hs : ((l.mergeSort (byKey key)).filterMap f).Pairwise fun a b => key' a ≤ key' b := by
    refine (mergeSort_byKey_ascends key l).filterMap f ?_
    intro a b hab c hc d hd
    rw [hf a c hc, hf b d hd]
    exact hab
  apply eq_of_ascends_of_filter_eq hs (mergeSort_byKey_ascends key' _)
  intro k
  rw [pick, filter_mergeSort_byKey, filter_mergeSort_byKey, pick]

/-! ## Sorting two lists that match -/

/-- Every element of a list has a match in a list that it matches a part of. -/
lemma exists_mem_of_sublistForall₂ {R : α → α → Prop} {l m : List α} {a : α}
    (h : List.SublistForall₂ R l m) (ha : a ∈ l) : ∃ b ∈ m, R a b := by
  induction h with
  | nil => cases ha
  | @cons c d l m hcd _ ih =>
    rcases List.mem_cons.1 ha with rfl | ha
    · exact ⟨d, List.mem_cons_self, hcd⟩
    · obtain ⟨b, hb, hab⟩ := ih ha
      exact ⟨b, List.mem_cons_of_mem _ hb, hab⟩
  | cons_right _ ih =>
    obtain ⟨b, hb, hab⟩ := ih ha
    exact ⟨b, List.mem_cons_of_mem _ hb, hab⟩

section

variable {R : α → α → Prop} (hR : ∀ a b, R a b → key a = key b)

include hR

/-- A list that matches a part of an ascending one still does after elements that match go in. -/
lemma sublistForall₂_orderedInsert {x y : α} (hxy : R x y) {l m : List α}
    (h : List.SublistForall₂ R l m) (hm : m.Pairwise fun a b => key a ≤ key b) :
    List.SublistForall₂ R (l.orderedInsert (key · ≤ key ·) x)
      (m.orderedInsert (key · ≤ key ·) y) := by
  induction h with
  | @nil m =>
    have hy : [y].Sublist (m.orderedInsert (key · ≤ key ·) y) := by simp
    exact List.sublistForall₂_iff.2 ⟨[y], .cons hxy .nil, hy⟩
  | @cons a b l m hab h ih =>
    obtain ⟨_, hm⟩ := List.pairwise_cons.1 hm
    -- the two elements go to the same place, since their keys agree
    by_cases hk : key x ≤ key a
    · have hk' : key y ≤ key b := hR _ _ hab ▸ hR _ _ hxy ▸ hk
      simpa [hk, hk'] using .cons hxy (.cons hab h)
    · have hk' : ¬ key y ≤ key b := hR _ _ hab ▸ hR _ _ hxy ▸ hk
      simpa [hk, hk'] using .cons hab (ih hm)
  | @cons_right b l m h ih =>
    obtain ⟨hb, hm⟩ := List.pairwise_cons.1 hm
    by_cases hk : key y ≤ key b
    · -- nothing in the shorter list sorts before the new element
      have hl : ∀ a ∈ l, key x ≤ key a := by
        intro a ha
        obtain ⟨c, hc, hac⟩ := exists_mem_of_sublistForall₂ h ha
        rw [hR _ _ hxy, hR _ _ hac]
        exact hk.trans (hb c hc)
      have e : l.orderedInsert (key · ≤ key ·) x = x :: l := orderedInsert_append_of_le hl []
      simpa [e, hk] using .cons hxy (.cons_right h)
    · simpa [hk] using .cons_right (ih hm)

/-- A list that matches a part of another one does so after both are sorted. -/
lemma sublistForall₂_mergeSort {l m : List α} (h : List.SublistForall₂ R l m) :
    List.SublistForall₂ R (l.mergeSort (byKey key)) (m.mergeSort (byKey key)) := by
  induction h with
  | nil => simpa using .nil
  | @cons a b l m hab _ ih =>
    rw [mergeSort_byKey_cons, mergeSort_byKey_cons]
    exact sublistForall₂_orderedInsert hR hab ih (mergeSort_byKey_ascends key m)
  | @cons_right b l m _ ih =>
    obtain ⟨l', hl, hs⟩ := List.sublistForall₂_iff.1 ih
    rw [mergeSort_byKey_cons]
    exact List.sublistForall₂_iff.2 ⟨l', hl, hs.trans (List.sublist_orderedInsert _ _)⟩

end

end FieldAudit
