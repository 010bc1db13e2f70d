import Mathlib
import FieldAudit.Proofs.Classification
import FieldAudit.Proofs.Promotion

/-!
# Aliases and the identity of a type

The identity of a type is found by following aliases, and its fields by following definitions of any
kind. Both searches give up after a number of steps, the first after that many aliases and the second
after that many types looked at. A chain of definitions in which the fields are found is short enough
for all aliases at its beginning to have been followed. So the identity of a candidate is never an
alias, and two candidates have one identity exactly if their aliases lead to a common type.
-/

namespace FieldAudit

namespace TypeTable

/-- The one key is declared as an alias of the named type of the other. -/
def AliasOf (t : TypeTable) (key next : TypeKey) : Prop :=
  ∃ named, t.get? key = some named ∧ named.isAlias = true ∧ named.definition = .type (.named next)

/-- Aliases lead from the one key to the other, through any number of others. -/
def AliasesTo (t : TypeTable) : TypeKey → TypeKey → Prop := Relation.ReflTransGen t.AliasOf

/-- The type is a candidate whose struct has this key. -/
def CandidateOver (t : TypeTable) (type : Ty) (key : TypeKey) (c : Candidate) : Prop :=
  (unwrap type).2 = .named key ∧ t.candidate? type = some c

/-- Aliases lead from the one key to the other and no further. -/
structure EndsAt (t : TypeTable) (key stop : TypeKey) : Prop where
  reached : t.AliasesTo key stop
  stops : ∀ next, ¬ t.AliasOf stop next

variable {t : TypeTable} {key next stop : TypeKey} {n m : Nat} {fields : List (FieldDef Ty)}

/-! ## Chains of aliases -/

/-- A type is an alias of at most one other type. -/
lemma aliasOf_rightUnique (t : TypeTable) : Relator.RightUnique t.AliasOf := by
  intro key next other h h'
  obtain ⟨named, hk, _, hd⟩ := h
  obtain ⟨named', hk', _, hd'⟩ := h'
  obtain rfl := Option.some.inj (hk.symm.trans hk')
  cases hd.symm.trans hd'
  rfl

/-- From a type that is no alias, aliases lead nowhere else. -/
lemma eq_of_aliasesTo_of_stops (h : t.AliasesTo key next) (hs : ∀ next, ¬ t.AliasOf key next) :
    next = key := by
  rcases Relation.ReflTransGen.cases_head h with e | ⟨other, ho, _⟩
  · exact e.symm
  · exact absurd ho (hs other)

/-- There is one way along the aliases, so every type on it comes to the same end. -/
lemma EndsAt.of_aliasesTo (h : t.EndsAt key stop) (hn : t.AliasesTo key next) :
    t.EndsAt next stop := by
  refine ⟨?_, h.stops⟩
  rcases Relation.ReflTransGen.total_of_right_unique (aliasOf_rightUnique t) hn h.reached with hr | hr
  · exact hr
  · rw [eq_of_aliasesTo_of_stops hr h.stops]
    exact .refl

/-- The aliases of a type end at one type. -/
lemma EndsAt.unique {other : TypeKey} (h : t.EndsAt key stop) (h' : t.EndsAt key other) :
    stop = other :=
  eq_of_aliasesTo_of_stops (h'.of_aliasesTo h.reached).reached h.stops |>.symm

/-! ## Following aliases and definitions -/

/-- Following an alias costs one step. -/
lemma followAliases_of_aliasOf (h : t.AliasOf key next) :
    t.followAliases (n + 1) key = t.followAliases n next := by
  obtain ⟨⟨_, _, _⟩, hk, rfl, rfl⟩ := h
  simp only [followAliases, hk]

/-- Following aliases stays at a type that is none. -/
lemma followAliases_of_stops (h : ∀ next, ¬ t.AliasOf key next) : t.followAliases n key = key := by
  cases n with
  | zero => rfl
  | succ n =>
    unfold followAliases
    split
    · rename_i next hk
      exact absurd ⟨_, hk, rfl, rfl⟩ (h next)
    · rfl

/-- Following aliases, however far, goes along them. -/
lemma aliasesTo_followAliases (t : TypeTable) (n : Nat) (key : TypeKey) :
    t.AliasesTo key (t.followAliases n key) := by
  induction n generalizing key with
  | zero => exact .refl
  | succ n ih =>
    by_cases h : ∃ next, t.AliasOf key next
    · obtain ⟨next, h⟩ := h
      rw [followAliases_of_aliasOf h]
      exact .head h (ih next)
    · rw [followAliases_of_stops (not_exists.1 h)]
      exact .refl

/-- The fields of an alias are those of what it stands for, found with one step less. -/
lemma fieldsWithin_of_aliasOf (h : t.AliasOf key next) :
    t.fieldsWithin (n + 1) key = t.fieldsWithin n next := by
  obtain ⟨⟨_, _, _⟩, hk, _, rfl⟩ := h
  simp only [fieldsWithin, hk]

/-- Looking at more types finds the same fields. -/
lemma fieldsWithin_mono (h : t.fieldsWithin n key = some fields) (hm : n ≤ m) :
    t.fieldsWithin m key = some fields := by
  induction n generalizing key m with
  | zero => cases h
  | succ n ih =>
    obtain ⟨m, rfl⟩ : ∃ k, m = k + 1 := ⟨m - 1, by omega⟩
    unfold fieldsWithin at h ⊢
    split at h
    · exact h
    · exact ih h (Nat.le_of_succ_le_succ hm)
    · cases h

/-- Where the fields are found by looking at `n` types, no more than `n - 1` aliases come before them:
    following so many comes to their end, and leaves the fields as they are. -/
lemma stops_followAliases (h : t.fieldsWithin n key = some fields) (hm : n ≤ m + 1) :
    (∀ next, ¬ t.AliasOf (t.followAliases m key) next) ∧
      t.fieldsWithin n (t.followAliases m key) = some fields := by
  induction n generalizing key m with
  | zero => cases h
  | succ n ih =>
    by_cases ha : ∃ next, t.AliasOf key next
    · obtain ⟨next, ha⟩ := ha
      rw [fieldsWithin_of_aliasOf ha] at h
      -- one type was looked at for the alias, and at least one more for the fields
      have hn : n ≠ 0 := by
        rintro rfl
        cases h
      obtain ⟨m, rfl⟩ : ∃ k, m = k + 1 := ⟨m - 1, by omega⟩
      obtain ⟨stops, hfields⟩ := ih h (Nat.le_of_succ_le_succ hm)
      rw [followAliases_of_aliasOf ha]
      exact ⟨stops, fieldsWithin_mono hfields (Nat.le_succ n)⟩
    · have stops := not_exists.1 ha
      rw [followAliases_of_stops stops]
      exact ⟨stops, h⟩

/-- Where a struct is reached from a type, the aliases of the type end at its identity, and that is
    declared with the same fields. -/
lemma endsAt_identity (h : t.structFields? key = some fields) :
    t.EndsAt key (t.identity key) ∧ t.structFields? (t.identity key) = some fields := by
  obtain ⟨stops, hfields⟩ := stops_followAliases h (Nat.le_succ maxDefinitions)
  exact ⟨⟨aliasesTo_followAliases t maxDefinitions key, stops⟩, hfields⟩

/-! ## Candidates -/

/-- A candidate over a key is made of the key, the shape around it and the fields found under it. -/
lemma candidateOver_iff {type : Ty} {c : Candidate} :
    t.CandidateOver type key c ↔
      (unwrap type).2 = .named key ∧ ∃ fields, t.structFields? key = some fields ∧
        c = { name := key.name, shape := (unwrap type).1
              fields := t.flatten maxEmbedding none fields, identity := t.identity key } := by
  unfold CandidateOver
  rw [candidate?_eq_some]
  constructor
  · rintro ⟨hu, key', fields, hu', h⟩
    cases hu.symm.trans hu'
    exact ⟨hu, fields, h⟩
  · rintro ⟨hu, fields, h⟩
    exact ⟨hu, key, fields, hu, h⟩

/-- The identity of a candidate is where the aliases of its key end. -/
lemma CandidateOver.endsAt {type : Ty} {c : Candidate} (h : t.CandidateOver type key c) :
    t.EndsAt key c.identity ∧ t.structFields? c.identity = t.structFields? key := by
  obtain ⟨_, fields, hk, rfl⟩ := candidateOver_iff.1 h
  obtain ⟨hends, hfields⟩ := endsAt_identity hk
  exact ⟨hends, hfields.trans hk.symm⟩

/-- Two candidates have one identity exactly if aliases lead from both keys to a common one. -/
lemma CandidateOver.identity_eq_iff {type type' : Ty} {key' : TypeKey} {c c' : Candidate}
    (h : t.CandidateOver type key c) (h' : t.CandidateOver type' key' c') :
    c.identity = c'.identity ↔ ∃ common, t.AliasesTo key common ∧ t.AliasesTo key' common := by
  obtain ⟨hends, _⟩ := h.endsAt
  obtain ⟨hends', _⟩ := h'.endsAt
  constructor
  · intro e
    refine ⟨c.identity, hends.reached, ?_⟩
    rw [e]
    exact hends'.reached
  · rintro ⟨common, hc, hc'⟩
    exact (hends.of_aliasesTo hc).unique (hends'.of_aliasesTo hc')

end TypeTable

/-- A candidate among parameters is one over the key that its type names. -/
lemma CandidateAt.exists_over {table : TypeTable} {params : List Param} {types : List Ty} {i : Nat}
    {c : Candidate} (h : CandidateAt table params types i c) :
    ∃ type key, types[i]? = some type ∧ table.CandidateOver type key c := by
  obtain ⟨_, type, _, ht, hc⟩ := h
  obtain ⟨key, _, hu, _⟩ := TypeTable.candidate?_eq_some.1 hc
  exact ⟨type, key, ht, hu, hc⟩

/-- The identity of a candidate is its own identity, is not an alias of a named type and has the fields
    of the candidate. Of two candidates, where one is an alias of the other they have one identity, and
    they have one exactly if their aliases lead to a common type. So the two types of a converter are
    never aliases of one another or of a common type. -/
theorem alias_identity_resolved (t : TypeTable) :
    (∀ type key c, t.CandidateOver type key c →
      t.identity c.identity = c.identity ∧ (∀ next, ¬ t.AliasOf c.identity next) ∧
        t.structFields? c.identity = t.structFields? key) ∧
    (∀ type type' key key' c c', t.CandidateOver type key c → t.CandidateOver type' key' c' →
      (t.AliasesTo key key' → c.identity = c'.identity) ∧
        (c.identity = c'.identity ↔ ∃ common, t.AliasesTo key common ∧ t.AliasesTo key' common)) ∧
    ∀ settings decl params results pair, classify settings t decl params results = some pair →
      ∃ source dest key key',
        params[pair.source.index]? = some source ∧
        t.CandidateOver source key pair.source.candidate ∧
        results[pair.dest.index]? = some dest ∧
        t.CandidateOver dest key' pair.dest.candidate ∧
        ¬ ∃ common, t.AliasesTo key common ∧ t.AliasesTo key' common := by
  refine ⟨fun type key c h => ?_, fun type type' key key' c c' h h' => ?_, ?_⟩
  · obtain ⟨hends, hfields⟩ := h.endsAt
    exact ⟨TypeTable.followAliases_of_stops hends.stops, hends.stops, hfields⟩
  · have same := h.identity_eq_iff h'
    exact ⟨fun hk => same.2 ⟨key', hk, .refl⟩, same⟩
  · intro settings decl params results pair hc
    have first := firstMatch_of_classify hc
    obtain ⟨source, key, hs, hover⟩ := first.source.exists_over
    obtain ⟨dest, key', hd, hover'⟩ := first.dest.exists_over
    refine ⟨source, dest, key, key', hs, hover, hd, hover', ?_⟩
    rw [← hover.identity_eq_iff hover']
    obtain ⟨_, _, hsource, hdest, hne, _⟩ := first.fits
    rw [first.source.unique hsource, first.dest.unique hdest]
    exact hne

namespace Sample

/-- The key of the type `User` in a package. -/
def userIn (package : String) : TypeKey := ⟨package, "User"⟩

/-- The alias `type User = other.User` of a package. -/
def passedOn (package other : String) : NamedType :=
  { key := userIn package, isAlias := true, definition := .type (.named (userIn other)) }

/-- The type `User` is passed on from package to package, nine times. -/
def passingOn : TypeTable :=
  { types := table.types ++
      [passedOn "a" "", passedOn "b" "a", passedOn "c" "b", passedOn "d" "c", passedOn "e" "d",
        passedOn "f" "e", passedOn "g" "f", passedOn "h" "g", passedOn "i" "h"] }

end Sample

/-- A type that was passed on seven times has the identity of the first and of those on the way, and is
    converted to a type that is not among them. -/
theorem alias_identity_passed_on :
    ∃ last third pair,
      Sample.passingOn.CandidateOver (.named (Sample.userIn "g")) (Sample.userIn "g") last ∧
      Sample.passingOn.CandidateOver (.pointer (.named (Sample.userIn "c"))) (Sample.userIn "c")
        third ∧
      last.identity = Sample.userIn "" ∧
      (∀ next, ¬ Sample.passingOn.AliasOf last.identity next) ∧
      last.identity = third.identity ∧
      classify {} Sample.passingOn (Sample.toDTO []) [.named (Sample.userIn "g")]
        [.named ⟨"", "UserDTO"⟩] = some pair ∧
      ¬ ∃ common, Sample.passingOn.AliasesTo (Sample.userIn "g") common ∧
        Sample.passingOn.AliasesTo ⟨"", "UserDTO"⟩ common := by
  obtain ⟨resolved, together, converter⟩ := alias_identity_resolved Sample.passingOn
  have last : Sample.passingOn.CandidateOver (.named (Sample.userIn "g")) (Sample.userIn "g") _ :=
    ⟨rfl, rfl⟩
  have third : Sample.passingOn.CandidateOver (.pointer (.named (Sample.userIn "c")))
      (Sample.userIn "c") _ := ⟨rfl, rfl⟩
  have leads : Sample.passingOn.AliasesTo (Sample.userIn "g") (Sample.userIn "c") :=
    Sample.passingOn.aliasesTo_followAliases 4 (Sample.userIn "g")
  refine ⟨_, _, _, last, third, rfl, (resolved _ _ _ last).2.1,
    (together _ _ _ _ _ _ last third).1 leads, rfl, ?_⟩
  obtain ⟨source, dest, key, key', hs, hover, hd, hover', none⟩ := converter {} (Sample.toDTO [])
    [.named (Sample.userIn "g")] [.named ⟨"", "UserDTO"⟩] _ rfl
  cases hs
  cases hd
  cases hover.1
  cases hover'.1
  exact none

-- After nine aliases the search for the identity has not come to an end, but no fields are found.
example :
    Sample.passingOn.identity (Sample.userIn "i") = Sample.userIn "a" ∧
      Sample.passingOn.structFields? (Sample.userIn "i") = none := ⟨rfl, rfl⟩

end FieldAudit
