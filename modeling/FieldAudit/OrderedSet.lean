/-!
# Ordered sets

Finite sets kept as strictly increasing lists. The list is determined by its members, so two sets
with the same members are equal (`OrderedSet.ext_mem`), and `union` inherits the laws of set union.
-/

namespace FieldAudit

/-- A finite set, kept as a strictly increasing list. -/
structure OrderedSet (α : Type) [LT α] where
  /-- The members in increasing order. -/
  toList : List α
  sorted : toList.Pairwise (· < ·) := by decide

namespace OrderedSet

variable {α : Type} [LT α]

instance : EmptyCollection (OrderedSet α) := ⟨⟨[], .nil⟩⟩

instance : Inhabited (OrderedSet α) := ⟨∅⟩

instance : Membership α (OrderedSet α) := ⟨fun s a => a ∈ s.toList⟩

/-- The number of members. -/
def size (s : OrderedSet α) : Nat := s.toList.length

/-- Whether the set has no member. -/
def isEmpty (s : OrderedSet α) : Bool := s.toList.isEmpty

/-- The members of a set are those of its list. -/
theorem mem_def {s : OrderedSet α} {a : α} : a ∈ s ↔ a ∈ s.toList := Iff.rfl

/-- The empty set has no member. -/
@[simp] theorem not_mem_empty (a : α) : a ∉ (∅ : OrderedSet α) := by
  simp [mem_def, EmptyCollection.emptyCollection]

instance [DecidableEq α] (a : α) (s : OrderedSet α) : Decidable (a ∈ s) :=
  inferInstanceAs (Decidable (a ∈ s.toList))

instance [DecidableEq α] : DecidableEq (OrderedSet α) := fun s t =>
  decidable_of_iff (s.toList = t.toList) (by
    cases s; cases t; simp)

section insertion

variable [DecidableLT α]

/-- Puts an element at its place in an increasing list, unless it is there already. -/
def place (a : α) : List α → List α
  | [] => [a]
  | b :: bs => if a < b then a :: b :: bs else if b < a then b :: place a bs else b :: bs

/-- Placing a value brings in nothing but that value. -/
theorem mem_place_imp {a x : α} {l : List α} (h : x ∈ place a l) : x = a ∨ x ∈ l := by
  induction l with
  | nil => simpa [place] using h
  | cons b bs ih =>
    simp only [place] at h
    split at h
    · simpa using h
    · split at h
      · rcases List.mem_cons.1 h with rfl | h
        · simp
        · rcases ih h with rfl | h
          · simp
          · simp [h]
      · exact .inr h

/-- A list that ascends still does so after a value was placed. -/
theorem place_pairwise [Trans (α := α) (· < ·) (· < ·) (· < ·)] (a : α) {l : List α}
    (h : l.Pairwise (· < ·)) : (place a l).Pairwise (· < ·) := by
  induction l with
  | nil => simp [place]
  | cons b bs ih =>
    obtain ⟨hb, hbs⟩ := List.pairwise_cons.1 h
    simp only [place]
    split
    · rename_i hab
      refine List.pairwise_cons.2 ⟨fun c hc => ?_, h⟩
      rcases List.mem_cons.1 hc with rfl | hc
      · exact hab
      · exact Trans.trans hab (hb c hc)
    · split
      · rename_i hba
        refine List.pairwise_cons.2 ⟨fun c hc => ?_, ih hbs⟩
        rcases mem_place_imp hc with rfl | hc
        · exact hba
        · exact hb c hc
      · exact h

variable [Trans (α := α) (· < ·) (· < ·) (· < ·)]

/-- Adds an element. -/
def insert (a : α) (s : OrderedSet α) : OrderedSet α :=
  ⟨place a s.toList, place_pairwise a s.sorted⟩

/-- The set of the elements of a list. -/
def ofList (l : List α) : OrderedSet α := l.foldr insert ∅

/-- The members of either set. -/
def union (s t : OrderedSet α) : OrderedSet α := s.toList.foldr insert t

instance : Union (OrderedSet α) := ⟨union⟩

instance : Singleton α (OrderedSet α) := ⟨fun a => insert a ∅⟩

/-- The set of the results of a partial map. -/
def filterMap {β : Type} [LT β] (f : β → Option α) (s : OrderedSet β) : OrderedSet α :=
  ofList (s.toList.filterMap f)

/-- The image of a set. -/
def map {β : Type} [LT β] (f : β → α) (s : OrderedSet β) : OrderedSet α :=
  ofList (s.toList.map f)

end insertion

section membership

variable [DecidableLT α] [Std.Trichotomous (α := α) (· < ·)]

/-- A list in which a value was placed has that value and its old members. -/
theorem mem_place {a x : α} {l : List α} : x ∈ place a l ↔ x = a ∨ x ∈ l := by
  refine ⟨mem_place_imp, fun h => ?_⟩
  induction l with
  | nil => simpa [place] using h
  | cons b bs ih =>
    simp only [place]
    split
    · simpa using h
    · rename_i hab
      split
      · rcases h with rfl | h
        · exact List.mem_cons_of_mem _ (ih (.inl rfl))
        · rcases List.mem_cons.1 h with rfl | h
          · simp
          · exact List.mem_cons_of_mem _ (ih (.inr h))
      · rename_i hba
        obtain rfl : a = b := Std.Trichotomous.trichotomous a b hab hba
        simpa using h

variable [Trans (α := α) (· < ·) (· < ·) (· < ·)]

/-- A set into which a value was inserted has that value and its old members. -/
@[simp] theorem mem_insert {a x : α} {s : OrderedSet α} : x ∈ s.insert a ↔ x = a ∨ x ∈ s :=
  mem_place

/-- The set of a list has the members of the list. -/
@[simp] theorem mem_ofList {x : α} {l : List α} : x ∈ ofList l ↔ x ∈ l := by
  induction l with
  | nil => simp [ofList]
  | cons a l ih =>
    have : ofList (a :: l) = (ofList l).insert a := rfl
    simp [this, ih]

/-- The members of a union are those of either set. -/
@[simp] theorem mem_union {x : α} {s t : OrderedSet α} : x ∈ s ∪ t ↔ x ∈ s ∨ x ∈ t := by
  have key : ∀ l : List α, x ∈ l.foldr insert t ↔ x ∈ l ∨ x ∈ t := by
    intro l
    induction l with
    | nil => simp
    | cons a l ih => simp [ih, or_assoc]
  exact key s.toList

/-- The only member of a singleton is the value it was made of. -/
@[simp] theorem mem_singleton {a x : α} : x ∈ ({a} : OrderedSet α) ↔ x = a := by
  have : ({a} : OrderedSet α) = (∅ : OrderedSet α).insert a := rfl
  simp [this]

/-- The members of an image are the values that a partial function has on the set. -/
@[simp] theorem mem_filterMap {β : Type} [LT β] {f : β → Option α} {s : OrderedSet β} {x : α} :
    x ∈ s.filterMap f ↔ ∃ b ∈ s, f b = some x := by
  simp [filterMap, mem_def (s := s)]

/-- The members of an image are the values that a function has on the set. -/
@[simp] theorem mem_map {β : Type} [LT β] {f : β → α} {s : OrderedSet β} {x : α} :
    x ∈ s.map f ↔ ∃ b ∈ s, f b = x := by
  simp [map, mem_def (s := s)]

end membership

section extensionality

variable [Std.Irrefl (α := α) (· < ·)] [Trans (α := α) (· < ·) (· < ·) (· < ·)]

/-- Two ascending lists with the same members are one list. -/
theorem eq_of_pairwise_of_mem {l m : List α} (hl : l.Pairwise (· < ·)) (hm : m.Pairwise (· < ·))
    (h : ∀ x, x ∈ l ↔ x ∈ m) : l = m := by
  induction l generalizing m with
  | nil =>
    cases m with
    | nil => rfl
    | cons b m => exact absurd ((h b).2 (by simp)) (by simp)
  | cons a l ih =>
    cases m with
    | nil => exact absurd ((h a).1 (by simp)) (by simp)
    | cons b m =>
      obtain ⟨ha, hl'⟩ := List.pairwise_cons.1 hl
      obtain ⟨hb, hm'⟩ := List.pairwise_cons.1 hm
      have irr (x : α) : ¬ x < x := Std.Irrefl.irrefl (r := (· < ·)) x
      have hab : a = b := by
        rcases List.mem_cons.1 ((h a).1 (by simp)) with rfl | h1
        · rfl
        · rcases List.mem_cons.1 ((h b).2 (by simp)) with rfl | h2
          · rfl
          · exact absurd (Trans.trans (ha b h2) (hb a h1)) (irr a)
      subst hab
      congr 1
      refine ih hl' hm' fun x => ⟨fun hx => ?_, fun hx => ?_⟩
      · rcases List.mem_cons.1 ((h x).1 (List.mem_cons_of_mem _ hx)) with rfl | hx'
        · exact absurd (ha x hx) (irr x)
        · exact hx'
      · rcases List.mem_cons.1 ((h x).2 (List.mem_cons_of_mem _ hx)) with rfl | hx'
        · exact absurd (hb x hx) (irr x)
        · exact hx'

/-- Sets with the same members are equal. -/
theorem ext_mem {s t : OrderedSet α} (h : ∀ x, x ∈ s ↔ x ∈ t) : s = t := by
  have := eq_of_pairwise_of_mem s.sorted t.sorted h
  cases s; cases t; simp_all

end extensionality

end OrderedSet

instance transString : Trans (α := String) (· < ·) (· < ·) (· < ·) := ⟨String.lt_trans⟩

/-- A set of field or method names, in the order of their characters. -/
abbrev NameSet := OrderedSet String

end FieldAudit
