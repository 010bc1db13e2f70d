import FieldAudit.OrderedSet

/-!
# Entries of a map

A finite map from names, kept as the list of its entries in the strictly increasing order of their
names. The list is determined by what is found in it (`Entries.ext_find?`).
-/

namespace FieldAudit

namespace Entries

variable {α : Type} {name : String} {entries others : List (String × α)}

/-- The names of the entries are strictly increasing. -/
def Sorted (entries : List (String × α)) : Prop := entries.Pairwise (·.1 < ·.1)

/-- The value under a name. -/
def find? (name : String) : List (String × α) → Option α
  | [] => none
  | (n, a) :: rest => if n = name then some a else find? name rest

/-- Puts a value under a name, in the place of the one that was there. -/
def put (name : String) (a : α) : List (String × α) → List (String × α)
  | [] => [(name, a)]
  | (n, b) :: rest =>
    if name < n then (name, a) :: (n, b) :: rest
    else if n < name then (n, b) :: put name a rest
    else (name, a) :: rest

/-- What is found is one of the entries. -/
theorem mem_of_find? {a : α} (h : find? name entries = some a) : (name, a) ∈ entries := by
  induction entries with
  | nil => cases h
  | cons entry rest ih =>
    obtain ⟨n, b⟩ := entry
    rw [find?] at h
    split at h
    · cases h
      subst n
      exact List.mem_cons_self
    · exact List.mem_cons_of_mem _ (ih h)

/-- An entry after a change is the new one or was there before. -/
theorem mem_put {a : α} {entry : String × α} (h : entry ∈ put name a entries) :
    entry = (name, a) ∨ entry ∈ entries := by
  induction entries with
  | nil => exact .inl (List.mem_singleton.1 h)
  | cons first rest ih =>
    obtain ⟨n, b⟩ := first
    rw [put] at h
    split at h
    · exact List.mem_cons.1 h
    · split at h
      · rcases List.mem_cons.1 h with rfl | h
        · exact .inr List.mem_cons_self
        · exact (ih h).imp_right (List.mem_cons_of_mem _)
      · exact (List.mem_cons.1 h).imp_right (List.mem_cons_of_mem _)

/-- A change keeps the order of the names. -/
theorem Sorted.put (h : Sorted entries) (name : String) (a : α) : Sorted (put name a entries) := by
  induction entries with
  | nil => exact List.pairwise_singleton _ _
  | cons first rest ih =>
    obtain ⟨n, b⟩ := first
    obtain ⟨hn, hrest⟩ := List.pairwise_cons.1 h
    rw [Entries.put]
    split
    · rename_i before
      refine List.pairwise_cons.2 ⟨fun entry he => ?_, h⟩
      rcases List.mem_cons.1 he with rfl | he
      · exact before
      · exact String.lt_trans before (hn entry he)
    · split
      · rename_i after
        refine List.pairwise_cons.2 ⟨fun entry he => ?_, ih hrest⟩
        rcases mem_put he with rfl | he
        · exact after
        · exact hn entry he
      · rename_i hlt hgt
        obtain rfl : name = n := Std.Trichotomous.trichotomous name n hlt hgt
        exact List.pairwise_cons.2 ⟨hn, hrest⟩

/-- The new value is found under its name, and any other name finds what it found before. -/
theorem find?_put (key name : String) (a : α) (entries : List (String × α)) :
    find? key (put name a entries) = if name = key then some a else find? key entries := by
  induction entries with
  | nil => rfl
  | cons first rest ih =>
    obtain ⟨n, b⟩ := first
    rw [put]
    split
    · rfl
    · split
      · rename_i after
        rw [find?, ih, find?]
        by_cases hn : n = key
        · subst n
          have : name ≠ key := fun e => String.lt_irrefl key (e ▸ after)
          rw [if_pos rfl, if_neg this, if_pos rfl]
        · rw [if_neg hn, if_neg hn]
      · rename_i hlt hgt
        obtain rfl : name = n := Std.Trichotomous.trichotomous name n hlt hgt
        rw [find?, find?]
        split <;> rfl

/-- Under a name that comes before all others nothing is found. -/
theorem find?_eq_none (h : ∀ entry ∈ entries, name < entry.1) : find? name entries = none := by
  induction entries with
  | nil => rfl
  | cons first rest ih =>
    have : first.1 ≠ name := fun e => String.lt_irrefl name (e ▸ h first List.mem_cons_self)
    rw [find?, if_neg this]
    exact ih fun entry he => h entry (List.mem_cons_of_mem _ he)

/-- Under a name that comes before the first one nothing is found. -/
theorem find?_of_before {first : String × α} (h : Sorted (first :: entries))
    (before : name < first.1) : find? name (first :: entries) = none := by
  apply find?_eq_none
  intro entry he
  rcases List.mem_cons.1 he with rfl | he
  · exact before
  · exact String.lt_trans before ((List.pairwise_cons.1 h).1 entry he)

/-- Every entry is found under its name. -/
theorem Sorted.find?_of_mem (h : Sorted entries) {a : α} (ha : (name, a) ∈ entries) :
    find? name entries = some a := by
  induction entries with
  | nil => cases ha
  | cons first rest ih =>
    obtain ⟨hfirst, hrest⟩ := List.pairwise_cons.1 h
    rcases List.mem_cons.1 ha with rfl | ha
    · rw [find?, if_pos rfl]
    · have : first.1 ≠ name := fun e => String.lt_irrefl name (e ▸ hfirst (name, a) ha)
      rw [find?, if_neg this]
      exact ih hrest ha

/-- Maps in which the same values are found have the same entries. -/
theorem ext_find? (h : Sorted entries) (h' : Sorted others)
    (same : ∀ name, find? name entries = find? name others) : entries = others := by
  induction entries generalizing others with
  | nil =>
    cases others with
    | nil => rfl
    | cons other _ => simpa [find?] using same other.1
  | cons first rest ih =>
    cases others with
    | nil => simpa [find?] using same first.1
    | cons other others =>
      obtain ⟨hfirst, hrest⟩ := List.pairwise_cons.1 h
      obtain ⟨hother, hothers⟩ := List.pairwise_cons.1 h'
      obtain ⟨n, a⟩ := first
      obtain ⟨m, b⟩ := other
      -- the first of the two names would not be found in the other list
      have hlt : ¬ n < m := by
        intro before
        have absent := find?_of_before h' before
        rw [← same, find?, if_pos rfl] at absent
        cases absent
      have hgt : ¬ m < n := by
        intro before
        have absent := find?_of_before h before
        rw [same, find?, if_pos rfl] at absent
        cases absent
      obtain rfl : n = m := Std.Trichotomous.trichotomous n m hlt hgt
      have ha : a = b := by simpa [find?] using same n
      subst ha
      congr 1
      refine ih hrest hothers fun name => ?_
      by_cases hname : n = name
      · subst hname
        rw [find?_eq_none hfirst, find?_eq_none hother]
      · simpa [find?, hname] using same name

end Entries

end FieldAudit
