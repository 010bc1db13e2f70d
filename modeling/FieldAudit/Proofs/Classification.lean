import Mathlib
import FieldAudit.Proofs.Judgement

/-!
# Which pair is a converter, and why a function is refused

A signature is told position by position: which types are candidates, which of them match and what the
declaration calls them. The pair of a converter is the matching one that comes first, by the position of
the source and then of the destination. A function without such a pair is judged by its first candidates,
and there is one reason for each function that is not judged.
-/

namespace FieldAudit

/-- The type at a position of a signature is this candidate. -/
def CandidateAt (table : TypeTable) (params : List Param) (types : List Ty) (i : Nat)
    (c : Candidate) : Prop :=
  ∃ param type, params[i]? = some param ∧ types[i]? = some type ∧ table.candidate? type = some c

/-- The name that is declared at a position; a blank one counts as none. -/
def nameAt (params : List Param) (i : Nat) : Option String :=
  (params[i]?).bind fun param => param.name.filter (· != "_")

/-- Nothing is declared at a position by which the value there could be referred to. -/
def UnnamedAt (params : List Param) (i : Nat) : Prop :=
  ∃ param, params[i]? = some param ∧ (param.name = none ∨ param.name = some "_")

/-- The candidates at two positions make a converter. -/
def MatchAt (settings : Settings) (table : TypeTable) (decl : FuncDecl) (params results : List Ty)
    (i j : Nat) : Prop :=
  ∃ source dest, CandidateAt table decl.params params i source ∧
    CandidateAt table decl.results results j dest ∧ source.identity ≠ dest.identity ∧
    Shape.compatible settings source.shape dest.shape = true ∧
    typeNamesMatch settings source.name dest.name = true

/-! ## Positions -/

section

variable {table : TypeTable} {params : List Param} {types : List Ty}

/-- The listed candidates are those at some place, with the name of the parameter there. -/
lemma mem_candidateParams {c : CandidateParam} :
    c ∈ candidateParams table params types ↔
      CandidateAt table params types c.index c.candidate ∧ c.name = nameAt params c.index := by
  constructor
  · intro h
    obtain ⟨⟨⟨param, type⟩, i⟩, hm, hc⟩ := List.mem_filterMap.1 h
    obtain ⟨candidate, ht, rfl⟩ := Option.map_eq_some_iff.1 hc
    obtain ⟨hp, hty⟩ := List.getElem?_zip_eq_some.1 (List.mk_mem_zipIdx_iff_getElem?.1 hm)
    refine ⟨⟨param, type, hp, hty, ht⟩, ?_⟩
    rw [nameAt, hp, Option.bind_some]
  · rintro ⟨⟨param, type, hp, hty, ht⟩, hn⟩
    have hm : ((param, type), c.index) ∈ (params.zip types).zipIdx :=
      List.mk_mem_zipIdx_iff_getElem?.2 (List.getElem?_zip_eq_some.2 ⟨hp, hty⟩)
    refine List.mem_filterMap.2 ⟨_, hm, ?_⟩
    rw [nameAt, hp, Option.bind_some] at hn
    simp only [ht, Option.map_some, ← hn]

/-- Candidates are listed by increasing position. -/
lemma candidateParams_pairwise (table : TypeTable) (params : List Param) (types : List Ty) :
    (candidateParams table params types).Pairwise fun c d => c.index < d.index := by
  have positions : (params.zip types).zipIdx.Pairwise fun a b => a.2 < b.2 := by
    apply List.pairwise_map.1
    rw [List.zipIdx_map_snd]
    exact List.pairwise_lt_range'
  apply List.Pairwise.filterMap _ _ positions
  intro a b hab c hc d hd
  obtain ⟨_, _, rfl⟩ := Option.map_eq_some_iff.1 hc
  obtain ⟨_, _, rfl⟩ := Option.map_eq_some_iff.1 hd
  exact hab

/-- A candidate at a place is listed with that place and its name. -/
lemma CandidateAt.listed {i : Nat} {c : Candidate} (h : CandidateAt table params types i c) :
    ⟨i, nameAt params i, c⟩ ∈ candidateParams table params types :=
  mem_candidateParams.2 ⟨h, rfl⟩

/-- There is at most one candidate at a place. -/
lemma CandidateAt.unique {i : Nat} {c d : Candidate} (hc : CandidateAt table params types i c)
    (hd : CandidateAt table params types i d) : c = d := by
  obtain ⟨_, type, _, ht, hc⟩ := hc
  obtain ⟨_, type', _, ht', hd⟩ := hd
  obtain rfl := Option.some.inj (ht.symm.trans ht')
  exact Option.some.inj (hc.symm.trans hd)

/-- A candidate has no name exactly if its parameter has none or the blank one. -/
lemma CandidateAt.nameAt_eq_none {i : Nat} {c : Candidate} (h : CandidateAt table params types i c) :
    nameAt params i = none ↔ UnnamedAt params i := by
  obtain ⟨param, _, hp, _, _⟩ := h
  rw [nameAt, hp, Option.bind_some, UnnamedAt, hp]
  cases hn : param.name with
  | none => simp [hn]
  | some name => simp [hn]

/-- The first candidate that is listed stands before all others. -/
lemma head?_candidateParams {c : CandidateParam}
    (h : (candidateParams table params types).head? = some c) :
    ∀ i d, CandidateAt table params types i d → c.index ≤ i := by
  intro i d hd
  obtain ⟨rest, hl⟩ := List.head?_eq_some_iff.1 h
  have hm := hd.listed
  have sorted := candidateParams_pairwise table params types
  rw [hl] at hm sorted
  rcases List.mem_cons.1 hm with e | hm
  · exact (congrArg CandidateParam.index e).ge
  · exact ((List.pairwise_cons.1 sorted).1 _ hm).le

/-- No candidate is listed exactly if there is none at any place. -/
lemma candidateParams_eq_nil :
    candidateParams table params types = [] ↔ ∀ i c, ¬ CandidateAt table params types i c := by
  rw [List.eq_nil_iff_forall_not_mem]
  constructor
  · intro h i c hc
    exact h _ hc.listed
  · intro h c hc
    exact h _ _ (mem_candidateParams.1 hc).1

end

/-! ## The first pair that matches -/

section

variable {settings : Settings} {table : TypeTable} {decl : FuncDecl} {params results : List Ty}

/-- The pair stands at the matching positions that come first, by the source and then by the
    destination, with the names that are declared there and the kind of the two shapes. -/
structure FirstMatch (settings : Settings) (table : TypeTable) (decl : FuncDecl)
    (params results : List Ty) (pair : ConverterPair) : Prop where
  source : CandidateAt table decl.params params pair.source.index pair.source.candidate
  dest : CandidateAt table decl.results results pair.dest.index pair.dest.candidate
  fits : MatchAt settings table decl params results pair.source.index pair.dest.index
  first : ∀ i j, MatchAt settings table decl params results i j →
    pair.source.index < i ∨ pair.source.index = i ∧ pair.dest.index ≤ j
  sourceName : pair.source.name = nameAt decl.params pair.source.index
  destName : pair.dest.name = nameAt decl.results pair.dest.index
  kind : pair.kind =
    ⟨.ofShapes pair.source.candidate.shape pair.dest.candidate.shape, decl.isMethod⟩

/-- Two candidates qualify if they are different types of compatible shape with matching names. -/
lemma qualifies_iff {source dest : CandidateParam} :
    qualifies settings source dest = true ↔
      source.candidate.identity ≠ dest.candidate.identity ∧
        Shape.compatible settings source.candidate.shape dest.candidate.shape = true ∧
        typeNamesMatch settings source.candidate.name dest.candidate.name = true := by
  rw [qualifies, Bool.and_eq_true, Bool.and_eq_true, bne_iff_ne, and_assoc]

/-- Positions match exactly if they hold entries that qualify. -/
lemma matchAt_iff {i j : Nat} :
    MatchAt settings table decl params results i j ↔
      ∃ source ∈ candidateParams table decl.params params,
        ∃ dest ∈ candidateParams table decl.results results,
          source.index = i ∧ dest.index = j ∧ qualifies settings source dest = true := by
  constructor
  · rintro ⟨source, dest, hs, hd, hq⟩
    exact ⟨_, hs.listed, _, hd.listed, rfl, rfl, qualifies_iff.2 hq⟩
  · rintro ⟨source, hs, dest, hd, rfl, rfl, hq⟩
    exact ⟨source.candidate, dest.candidate, (mem_candidateParams.1 hs).1,
      (mem_candidateParams.1 hd).1, qualifies_iff.1 hq⟩

/-- Among entries by increasing position, those after a cut come later than the one at the cut, and the
    one at the cut is alone at its position. -/
lemma cut_candidateParams {types : List Ty} {ps : List Param} {before after : List CandidateParam}
    {c d : CandidateParam} (hl : candidateParams table ps types = before ++ c :: after)
    (hd : d ∈ candidateParams table ps types) (hb : d ∉ before) : c.index < d.index ∨ d = c := by
  have sorted := candidateParams_pairwise table ps types
  rw [hl] at hd sorted
  rcases List.mem_append.1 hd with hd | hd
  · exact absurd hd hb
  · rcases List.mem_cons.1 hd with e | hd
    · exact .inr e
    · exact .inl ((List.pairwise_cons.1 (List.pairwise_append.1 sorted).2.1).1 d hd)

/-- The search through all pairs, source by source. -/
def firstPair? (settings : Settings) (table : TypeTable) (decl : FuncDecl)
    (params results : List Ty) : Option ConverterPair :=
  (candidateParams table decl.params params).findSome? fun source =>
    ((candidateParams table decl.results results).find? (qualifies settings source)).map
      (ConverterPair.of decl source)

/-- The pair that is found first is the first match. -/
lemma firstMatch_of_firstPair? {pair : ConverterPair}
    (h : firstPair? settings table decl params results = some pair) :
    FirstMatch settings table decl params results pair := by
  obtain ⟨before, source, after, hl, hp, hb⟩ := List.findSome?_eq_some_iff.1 h
  obtain ⟨dest, hf, rfl⟩ := Option.map_eq_some_iff.1 hp
  obtain ⟨hq, before', after', hl', hb'⟩ := List.find?_eq_some_iff_append.1 hf
  have hs : source ∈ candidateParams table decl.params params := by
    rw [hl]
    exact List.mem_append_right _ List.mem_cons_self
  have hd : dest ∈ candidateParams table decl.results results := List.mem_of_find?_eq_some hf
  obtain ⟨hsource, hsn⟩ := mem_candidateParams.1 hs
  obtain ⟨hdest, hdn⟩ := mem_candidateParams.1 hd
  refine ⟨hsource, hdest, matchAt_iff.2 ⟨source, hs, dest, hd, rfl, rfl, hq⟩, ?_, hsn, hdn, rfl⟩
  intro i j hm
  obtain ⟨source', hs', dest', hd', rfl, rfl, hq'⟩ := matchAt_iff.1 hm
  -- a source before the one that is found has no destination, and neither has that one an earlier one
  have late : source' ∉ before := by
    intro hm
    have none := Option.map_eq_none_iff.1 (hb source' hm)
    exact List.find?_eq_none.1 none dest' hd' hq'
  rcases cut_candidateParams hl hs' late with hlt | rfl
  · exact .inl hlt
  · have late' : dest' ∉ before' := by
      intro hm
      have no := hb' dest' hm
      rw [hq'] at no
      cases no
    rcases cut_candidateParams hl' hd' late' with hlt | rfl
    · exact .inr ⟨rfl, hlt.le⟩
    · exact .inr ⟨rfl, le_rfl⟩

/-- A pair is found exactly if there is a match at some places. -/
lemma isSome_firstPair? :
    (firstPair? settings table decl params results).isSome = true ↔
      ∃ i j, MatchAt settings table decl params results i j := by
  constructor
  · intro h
    obtain ⟨pair, hp⟩ := Option.isSome_iff_exists.1 h
    exact ⟨_, _, (firstMatch_of_firstPair? hp).fits⟩
  · rintro ⟨i, j, hm⟩
    obtain ⟨source, hs, dest, hd, _, _, hq⟩ := matchAt_iff.1 hm
    refine List.findSome?_isSome_iff.2 ⟨source, hs, ?_⟩
    rw [Option.isSome_map]
    exact List.find?_isSome.2 ⟨dest, hd, hq⟩

/-- A method counts if the settings say so, and there have to be parameters and results. -/
def Admissible (settings : Settings) (decl : FuncDecl) (params results : List Ty) : Prop :=
  (decl.isMethod = true → settings.includeMemberFunctions = true) ∧ params ≠ [] ∧ results ≠ []

/-- In an admissible function the first pair is taken. -/
lemma classify_of_admissible (h : Admissible settings decl params results) :
    classify settings table decl params results = firstPair? settings table decl params results := by
  obtain ⟨hm, hp, hr⟩ := h
  have method : (decl.isMethod && !settings.includeMemberFunctions) = false := by
    cases hd : decl.isMethod with
    | false => rfl
    | true => rw [hm hd]; rfl
  have types : (params.isEmpty || results.isEmpty) = false := by
    simp [hp, hr]
  simp only [classify, method, types, Bool.false_eq_true, if_false]
  rfl

/-- A function that is not admissible is not classified. -/
lemma classify_of_not_admissible (h : ¬ Admissible settings decl params results) :
    classify settings table decl params results = none := by
  unfold classify
  split
  · rfl
  · rename_i hm
    split
    · rfl
    · rename_i hn
      refine absurd ⟨fun hd => ?_, fun e => ?_, fun e => ?_⟩ h
      · simpa [hd] using hm
      · simp [e] at hn
      · simp [e] at hn

/-- A classified function is classified by its first match. -/
lemma firstMatch_of_classify {pair : ConverterPair}
    (h : classify settings table decl params results = some pair) :
    FirstMatch settings table decl params results pair := by
  by_cases ha : Admissible settings decl params results
  · rw [classify_of_admissible ha] at h
    exact firstMatch_of_firstPair? h
  · rw [classify_of_not_admissible ha] at h
    cases h

/-- A function is classified exactly if it is admissible and has a match. -/
lemma isSome_classify :
    (classify settings table decl params results).isSome = true ↔
      Admissible settings decl params results ∧
        ∃ i j, MatchAt settings table decl params results i j := by
  by_cases ha : Admissible settings decl params results
  · rw [classify_of_admissible ha, isSome_firstPair?]
    exact (and_iff_right ha).symm
  · rw [classify_of_not_admissible ha]
    exact iff_of_false Bool.false_ne_true fun h => ha h.1

/-- Shapes that aggregate are compatible only where the settings allow it. -/
lemma allowAggregating_of_compatible {source dest : Shape}
    (hc : Shape.compatible settings source dest = true)
    (ha : Conversion.ofShapes source dest = .aggregating) : settings.allowAggregating = true := by
  cases source with
  | sequence =>
    cases dest with
    | sequence => cases ha
    | value => exact (Bool.and_eq_true_iff.1 hc).1
    | pointer => exact (Bool.and_eq_true_iff.1 hc).1
    | mapping => exact (Bool.and_eq_true_iff.1 hc).1
  | value => cases dest <;> cases ha
  | pointer => cases dest <;> cases ha
  | mapping => cases dest <;> cases ha

/-- A match that aggregates is found only where the settings allow it. -/
lemma FirstMatch.aggregating {pair : ConverterPair}
    (h : FirstMatch settings table decl params results pair)
    (ha : pair.kind.conversion = .aggregating) : settings.allowAggregating = true := by
  obtain ⟨source, dest, hs, hd, _, hc, _⟩ := h.fits
  obtain rfl := hs.unique h.source
  obtain rfl := hd.unique h.dest
  rw [h.kind] at ha
  exact allowAggregating_of_compatible hc ha

end

/-! ## Refusals -/

section

variable {settings : Settings} {table : TypeTable} {decl : FuncDecl} {sig : Signature}

/-- Why a function without a converter pair is not judged: the reasons in the order in which they are
    looked for, each where none of those before it holds. -/
inductive Refused (table : TypeTable) (decl : FuncDecl) (sig : Signature) : Refusal → Prop where
  | noTypes :
    sig.params = [] ∨ sig.results = [] →
    Refused table decl sig .missingParamsOrResults
  | noInput :
    sig.params ≠ [] → sig.results ≠ [] →
    (∀ i c, ¬ CandidateAt table decl.params sig.params i c) →
    Refused table decl sig .noInputCandidate
  | noOutput {i : Nat} {c : Candidate} :
    sig.params ≠ [] → sig.results ≠ [] →
    CandidateAt table decl.params sig.params i c →
    (∀ j d, ¬ CandidateAt table decl.results sig.results j d) →
    Refused table decl sig .noOutputCandidate
  | unnamed {i j : Nat} {c d : Candidate} :
    CandidateAt table decl.params sig.params i c →
    (∀ i' c', CandidateAt table decl.params sig.params i' c' → i ≤ i') →
    CandidateAt table decl.results sig.results j d →
    UnnamedAt decl.params i →
    Refused table decl sig .unnamedSource

/-- Where there is a candidate, there is a type. -/
lemma CandidateAt.types_ne_nil {params : List Param} {types : List Ty} {i : Nat} {c : Candidate}
    (h : CandidateAt table params types i c) : types ≠ [] := by
  rintro rfl
  obtain ⟨_, _, _, ht, _⟩ := h
  cases ht

/-- A function with types is refused for want of a pair or of a name for the source. -/
lemma judge_eq_error_of_types (hp : sig.params ≠ []) (hr : sig.results ≠ []) {r : Refusal} :
    judge settings table decl sig = .error r ↔
      selectPair settings table decl sig = .error r ∨
        ∃ pair, selectPair settings table decl sig = .ok pair ∧ pair.source.name = none ∧
          r = .unnamedSource := by
  have types : (sig.params.isEmpty || sig.results.isEmpty) = false := by
    simp [hp, hr]
  rw [judge_eq, types, if_neg Bool.false_ne_true]
  cases selectPair settings table decl sig with
  | error r' => simp [Except.bind]
  | ok pair =>
    cases hn : pair.source.name with
    | none => simp [Except.bind, hn, eq_comm]
    | some var => simp [Except.bind, hn]

/-- A function without parameters or without results is refused as such. -/
lemma judge_of_no_types (h : sig.params = [] ∨ sig.results = []) :
    judge settings table decl sig = .error .missingParamsOrResults := by
  rw [judge_eq]
  rcases h with h | h <;> simp [h]

/-- The first candidate stands before all others, and it has no name exactly if its parameter has
    none. -/
lemma firstCandidate?_eq_some {params : List Param} {types : List Ty} {c : CandidateParam}
    (h : firstCandidate? table params types = some c) :
    CandidateAt table params types c.index c.candidate ∧
      (∀ i d, CandidateAt table params types i d → c.index ≤ i) ∧
      (c.name = none ↔ UnnamedAt params c.index) := by
  obtain ⟨hc, hn⟩ := mem_candidateParams.1 (List.mem_of_head? h)
  refine ⟨hc, head?_candidateParams h, ?_⟩
  rw [hn, hc.nameAt_eq_none]

/-- There is no first candidate exactly if there is none at all. -/
lemma firstCandidate?_eq_none {params : List Param} {types : List Ty} :
    firstCandidate? table params types = none ↔ ∀ i c, ¬ CandidateAt table params types i c := by
  rw [firstCandidate?, List.head?_eq_none_iff, candidateParams_eq_nil]

/-- A function without a converter pair is judged by its first candidates. -/
lemma selectPair_of_unclassified
    (hc : classify settings table decl sig.params sig.results = none) :
    selectPair settings table decl sig =
      (firstCandidate? table decl.params sig.params).elim (.error .noInputCandidate) fun source =>
        (firstCandidate? table decl.results sig.results).elim (.error .noOutputCandidate) fun dest =>
          .ok (.of decl source dest) := by
  simp only [selectPair, hc]
  cases firstCandidate? table decl.params sig.params with
  | none => rfl
  | some source => cases firstCandidate? table decl.results sig.results <;> rfl

/-- Where there is a candidate, there is a first one. -/
lemma exists_firstCandidate? {params : List Param} {types : List Ty} {i : Nat} {c : Candidate}
    (h : CandidateAt table params types i c) :
    ∃ first, firstCandidate? table params types = some first := by
  cases hf : firstCandidate? table params types with
  | none => exact absurd h (firstCandidate?_eq_none.1 hf i c)
  | some first => exact ⟨first, rfl⟩

/-- Each reason refuses a function without a converter pair. -/
lemma Refused.judge_eq {r : Refusal} (h : Refused table decl sig r)
    (hc : classify settings table decl sig.params sig.results = none) :
    judge settings table decl sig = .error r := by
  have pair := selectPair_of_unclassified hc
  cases h with
  | noTypes ht => exact judge_of_no_types ht
  | noInput hp hr hno =>
    rw [firstCandidate?_eq_none.2 hno] at pair
    exact (judge_eq_error_of_types hp hr).2 (.inl pair)
  | noOutput hp hr hs hno =>
    obtain ⟨source, hs⟩ := exists_firstCandidate? hs
    rw [hs, firstCandidate?_eq_none.2 hno] at pair
    exact (judge_eq_error_of_types hp hr).2 (.inl pair)
  | @unnamed i j c d hi least hj hn =>
    obtain ⟨source, hs⟩ := exists_firstCandidate? hi
    obtain ⟨dest, hd⟩ := exists_firstCandidate? hj
    obtain ⟨hsource, hfirst, hname⟩ := firstCandidate?_eq_some hs
    have same : source.index = i := le_antisymm (hfirst i c hi) (least _ _ hsource)
    rw [hs, hd] at pair
    exact (judge_eq_error_of_types hi.types_ne_nil hj.types_ne_nil).2
      (.inr ⟨_, pair, hname.2 (same ▸ hn), rfl⟩)

/-- A function without a converter pair that is refused has one of the reasons. -/
lemma refused_of_judge {r : Refusal} (h : judge settings table decl sig = .error r)
    (hc : classify settings table decl sig.params sig.results = none) :
    Refused table decl sig r := by
  by_cases ht : sig.params = [] ∨ sig.results = []
  · rw [judge_of_no_types ht] at h
    cases h
    exact .noTypes ht
  · obtain ⟨hp, hr⟩ := not_or.1 ht
    have pair := selectPair_of_unclassified hc
    rw [judge_eq_error_of_types hp hr] at h
    -- without a source the refusal is that of the input, then that of the output, then of the name
    cases hs : firstCandidate? table decl.params sig.params with
    | none =>
      rw [hs, Option.elim_none] at pair
      rw [pair] at h
      rcases h with e | ⟨_, e, _⟩
      · cases e
        exact .noInput hp hr (firstCandidate?_eq_none.1 hs)
      · cases e
    | some source =>
      obtain ⟨hsource, hfirst, hname⟩ := firstCandidate?_eq_some hs
      cases hd : firstCandidate? table decl.results sig.results with
      | none =>
        rw [hs, hd, Option.elim_some, Option.elim_none] at pair
        rw [pair] at h
        rcases h with e | ⟨_, e, _⟩
        · cases e
          exact .noOutput hp hr hsource (firstCandidate?_eq_none.1 hd)
        · cases e
      | some dest =>
        rw [hs, hd, Option.elim_some, Option.elim_some] at pair
        rw [pair] at h
        rcases h with e | ⟨_, e, hn, rfl⟩
        · cases e
        · cases e
          exact .unnamed hsource hfirst (firstCandidate?_eq_some hd).1 (hname.1 hn)

/-- A converter is refused only for want of a name for its source. -/
lemma judge_eq_error_of_classify {pair : ConverterPair}
    (hc : classify settings table decl sig.params sig.results = some pair) {r : Refusal} :
    judge settings table decl sig = .error r ↔
      r = .unnamedSource ∧ UnnamedAt decl.params pair.source.index := by
  have first := firstMatch_of_classify hc
  have selected : selectPair settings table decl sig = .ok pair := by
    simp only [selectPair, hc]
  rw [judge_eq_error_of_types first.source.types_ne_nil first.dest.types_ne_nil, selected]
  have name : pair.source.name = none ↔ UnnamedAt decl.params pair.source.index := by
    rw [first.sourceName, first.source.nameAt_eq_none]
  constructor
  · rintro (e | ⟨_, e, hn, hr⟩)
    · cases e
    · cases e
      exact ⟨hr, name.1 hn⟩
  · rintro ⟨hr, hn⟩
    exact .inr ⟨pair, rfl, name.2 hn, hr⟩

end

/-- A function is a converter exactly if it is a method only where methods count, has parameters and
    results, and has candidates at two positions that match. The pair is then the first of these, with
    the names and the kind that go with it, and it aggregates only where the settings allow it. Such a
    function is refused exactly if the source has no name. Any other function is refused for the first
    of four reasons that holds, and not at all if none does. -/
theorem converter_pair_and_refusals (settings : Settings) (table : TypeTable) (decl : FuncDecl)
    (sig : Signature) :
    ((classify settings table decl sig.params sig.results).isSome = true ↔
      (decl.isMethod = true → settings.includeMemberFunctions = true) ∧
        sig.params ≠ [] ∧ sig.results ≠ [] ∧
        ∃ i j, MatchAt settings table decl sig.params sig.results i j) ∧
    (∀ pair, classify settings table decl sig.params sig.results = some pair →
      FirstMatch settings table decl sig.params sig.results pair ∧
      (pair.kind.conversion = .aggregating → settings.allowAggregating = true) ∧
      ∀ r, judge settings table decl sig = .error r ↔
        r = .unnamedSource ∧ UnnamedAt decl.params pair.source.index) ∧
    (classify settings table decl sig.params sig.results = none →
      ∀ r, judge settings table decl sig = .error r ↔ Refused table decl sig r) := by
  refine ⟨?_, fun pair hc => ?_, fun hc r => ?_⟩
  · rw [isSome_classify, Admissible, and_assoc, and_assoc]
  · have first := firstMatch_of_classify hc
    exact ⟨first, first.aggregating, fun r => judge_eq_error_of_classify hc⟩
  · exact ⟨fun h => refused_of_judge h hc, fun h => h.judge_eq hc⟩

namespace Sample

/-- The function `Exchange(s string, d UserDTO, u User) (dto UserDTO, user User)`. -/
def exchange : FuncDecl :=
  { name := "Exchange"
    params := [⟨some "s", .named none "string"⟩, ⟨some "d", .named none "UserDTO"⟩,
      ⟨some "u", .named none "User"⟩]
    results := [⟨some "dto", .named none "UserDTO"⟩, ⟨some "user", .named none "User"⟩] }

/-- The signature of the sample function. -/
def exchangeSig : Signature :=
  ⟨[.basic "string", .named ⟨"", "UserDTO"⟩, .named ⟨"", "User"⟩],
    [.named ⟨"", "UserDTO"⟩, .named ⟨"", "User"⟩]⟩

/-- The function `Drop(_ User) User`. -/
def dropUser : FuncDecl :=
  { name := "Drop"
    params := [⟨some "_", .named none "User"⟩]
    results := [⟨none, .named none "User"⟩] }

/-- The signature of a function that returns what it takes. -/
def dropUserSig : Signature := ⟨[.named ⟨"", "User"⟩], [.named ⟨"", "User"⟩]⟩

end Sample

/-- The pair of the second parameter comes first, though the third one matches the first result. A
    function from a type to itself has no pair, and without a name for its source it is refused. -/
theorem converter_pair_exchange :
    (MatchAt {} Sample.table Sample.exchange Sample.exchangeSig.params Sample.exchangeSig.results 2 0 ∧
      ∃ pair,
        classify {} Sample.table Sample.exchange Sample.exchangeSig.params
          Sample.exchangeSig.results = some pair ∧
        FirstMatch {} Sample.table Sample.exchange Sample.exchangeSig.params
          Sample.exchangeSig.results pair ∧
        pair.source.index = 1 ∧ pair.dest.index = 1) ∧
      classify {} Sample.table Sample.dropUser Sample.dropUserSig.params
        Sample.dropUserSig.results = none ∧
      judge {} Sample.table Sample.dropUser Sample.dropUserSig = .error .unnamedSource := by
  obtain ⟨_, found, _⟩ :=
    converter_pair_and_refusals {} Sample.table Sample.exchange Sample.exchangeSig
  obtain ⟨_, _, refused⟩ :=
    converter_pair_and_refusals {} Sample.table Sample.dropUser Sample.dropUserSig
  have later : MatchAt {} Sample.table Sample.exchange Sample.exchangeSig.params
      Sample.exchangeSig.results 2 0 :=
    ⟨_, _, ⟨_, _, rfl, rfl, rfl⟩, ⟨_, _, rfl, rfl, rfl⟩, by decide, rfl, rfl⟩
  have none : classify {} Sample.table Sample.dropUser Sample.dropUserSig.params
      Sample.dropUserSig.results = none := rfl
  have unnamed : Refused Sample.table Sample.dropUser Sample.dropUserSig .unnamedSource := by
    refine @Refused.unnamed _ _ _ 0 0 _ _ ⟨_, _, rfl, rfl, rfl⟩ ?_ ⟨_, _, rfl, rfl, rfl⟩ ?_
    · exact fun i _ _ => Nat.zero_le i
    · exact ⟨_, rfl, .inr rfl⟩
  exact ⟨⟨later, _, rfl, (found _ rfl).1, rfl, rfl⟩, none, (refused none _).2 unnamed⟩

end FieldAudit
