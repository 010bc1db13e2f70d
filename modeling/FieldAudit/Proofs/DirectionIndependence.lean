import Mathlib
import FieldAudit.Proofs.Classification
import FieldAudit.Proofs.EditDistance

/-!
# Converters and the way back

Whether two candidates make a converter does not depend on which of them is the source: their
identities are compared, their names are held against each other in both directions or by a distance
that is the same from either side, and only aggregation tells a source from a destination. So where
aggregation is off a function is recognised exactly if one that goes the way back is.
-/

namespace FieldAudit

/-- The function with its parameters and its results exchanged. -/
def FuncDecl.exchanged (decl : FuncDecl) : FuncDecl :=
  { decl with params := decl.results, results := decl.params }

/-- A function that can be given the signature of another one the other way round. Both are methods or
    neither is. -/
structure FuncDecl.GoesBack (back there : FuncDecl) : Prop where
  method : back.isMethod = there.isMethod
  params : back.params.length = there.results.length
  results : back.results.length = there.params.length

/-- Exchanging parameters and results gives a function that goes back. -/
lemma FuncDecl.exchanged_goesBack (decl : FuncDecl) : decl.exchanged.GoesBack decl :=
  ⟨rfl, rfl, rfl⟩

/-- A function goes back from one that goes back from it. -/
lemma FuncDecl.GoesBack.symm {back there : FuncDecl} (h : back.GoesBack there) :
    there.GoesBack back :=
  ⟨h.method.symm, h.results.symm, h.params.symm⟩

/-! ## Names and shapes -/

/-- Two names are as similar either way round. -/
lemma similarity_comm (a b : String) : similarity a b = similarity b a := by
  simp only [similarity]
  rw [editDistance_comm, Nat.max_comm]

/-- Two names are related either way round. -/
lemma namesRelated_comm (a b : String) : namesRelated a b = namesRelated b a := by
  unfold namesRelated
  exact Bool.or_comm _ _

/-- The names of two types match either way round. -/
lemma typeNamesMatch_comm (settings : Settings) (a b : String) :
    typeNamesMatch settings a b = typeNamesMatch settings b a := by
  unfold typeNamesMatch
  rw [namesRelated_comm, similarity_comm]

section

variable {settings : Settings} {table : TypeTable} {there back : FuncDecl} {params results : List Ty}

/-- Without aggregation, shapes are compatible either way round. -/
lemma Shape.compatible_symm (off : settings.allowAggregating = false) {a b : Shape}
    (h : Shape.compatible settings a b = true) : Shape.compatible settings b a = true := by
  -- from a sequence to one struct is aggregation, to which there is no way back
  have single : Conversion.ofShapes a b ≠ .aggregating := by
    intro ha
    have on := allowAggregating_of_compatible h ha
    rw [off] at on
    cases on
  cases a with
  | value =>
    cases b with
    | value => rfl
    | pointer => rfl
    | sequence => cases h
    | mapping => cases h
  | pointer =>
    cases b with
    | value => rfl
    | pointer => rfl
    | sequence => cases h
    | mapping => cases h
  | sequence =>
    cases b with
    | sequence => rfl
    | value => exact absurd rfl single
    | pointer => exact absurd rfl single
    | mapping => exact absurd rfl single
  | mapping =>
    cases b with
    | mapping => rfl
    | value => cases h
    | pointer => cases h
    | sequence => cases h

/-! ## Signatures -/

/-- Of the declared parameters only their number counts for which of them are candidates. -/
lemma CandidateAt.of_length_eq {params params' : List Param} {types : List Ty} {i : Nat}
    {c : Candidate} (h : CandidateAt table params types i c)
    (hl : params'.length = params.length) : CandidateAt table params' types i c := by
  obtain ⟨param, type, hp, ht, hc⟩ := h
  have hi : i < params'.length := by
    rw [hl]
    exact (List.getElem?_eq_some_iff.1 hp).1
  exact ⟨params'[i], type, List.getElem?_eq_getElem hi, ht, hc⟩

/-- A match of one function is a match of the function that goes back, with the places exchanged. -/
lemma MatchAt.of_goesBack (off : settings.allowAggregating = false) (hb : back.GoesBack there)
    {i j : Nat} (h : MatchAt settings table there params results i j) :
    MatchAt settings table back results params j i := by
  obtain ⟨source, dest, hs, hd, hne, hc, hn⟩ := h
  refine ⟨dest, source, hd.of_length_eq hb.params, hs.of_length_eq hb.results, hne.symm, ?_, ?_⟩
  · exact Shape.compatible_symm off hc
  · rw [typeNamesMatch_comm]
    exact hn

/-- A function that goes back from an admissible one is admissible. -/
lemma Admissible.of_goesBack (hb : back.GoesBack there)
    (h : Admissible settings there params results) : Admissible settings back results params := by
  obtain ⟨hm, hp, hr⟩ := h
  exact ⟨fun hd => hm (hb.method ▸ hd), hr, hp⟩

/-- A function that goes back from a classified one is classified. -/
lemma isSome_classify_of_goesBack (off : settings.allowAggregating = false) (hb : back.GoesBack there)
    (h : (classify settings table there params results).isSome = true) :
    (classify settings table back results params).isSome = true := by
  obtain ⟨ha, i, j, hm⟩ := isSome_classify.1 h
  exact isSome_classify.2 ⟨ha.of_goesBack hb, j, i, hm.of_goesBack off hb⟩

end

/-- Where aggregation is off a function is recognised as a converter exactly if it is with its
    parameters and results exchanged, and so is any other function that goes the way back. The
    distance by which names are compared is the same from either side. -/
theorem recognised_in_both_directions (settings : Settings) (table : TypeTable)
    (off : settings.allowAggregating = false) (params results : List Ty) :
    (∀ decl : FuncDecl,
      (classify settings table decl params results).isSome = true ↔
        (classify settings table decl.exchanged results params).isSome = true) ∧
    (∀ there back : FuncDecl, back.GoesBack there →
      ((classify settings table there params results).isSome = true ↔
        (classify settings table back results params).isSome = true)) ∧
    ∀ a b : List Char, editDistance a b = editDistance b a := by
  have both (there back : FuncDecl) (hb : back.GoesBack there) :
      (classify settings table there params results).isSome = true ↔
        (classify settings table back results params).isSome = true :=
    ⟨isSome_classify_of_goesBack off hb, isSome_classify_of_goesBack off hb.symm⟩
  exact ⟨fun decl => both decl decl.exchanged decl.exchanged_goesBack, both, editDistance_comm⟩

namespace Sample

/-- The function `FromDTO(d UserDTO) User`. -/
def fromDTO : FuncDecl :=
  { name := "FromDTO"
    params := [⟨some "d", .named none "UserDTO"⟩]
    results := [⟨none, .named none "User"⟩] }

end Sample

/-- `ToDTO` and `FromDTO` are recognised together. -/
theorem recognised_dto_and_back :
    ({} : Settings).allowAggregating = false ∧ Sample.fromDTO.GoesBack (Sample.toDTO []) ∧
      (classify {} Sample.table (Sample.toDTO []) Sample.sig.params Sample.sig.results).isSome =
        true ∧
      (classify {} Sample.table Sample.fromDTO Sample.sig.results Sample.sig.params).isSome =
        true := by
  have there : (classify {} Sample.table (Sample.toDTO []) Sample.sig.params
      Sample.sig.results).isSome = true := rfl
  have goesBack : Sample.fromDTO.GoesBack (Sample.toDTO []) := ⟨rfl, rfl, rfl⟩
  obtain ⟨_, both, _⟩ :=
    recognised_in_both_directions {} Sample.table rfl Sample.sig.params Sample.sig.results
  exact ⟨rfl, goesBack, there, (both _ _ goesBack).1 there⟩

-- With aggregation on there is a converter from a sequence to one struct, and none back.
example :
    (classify { allowAggregating := true } Sample.table (Sample.toDTO [])
      [.slice (.named ⟨"", "User"⟩)] [.named ⟨"", "UserDTO"⟩]).isSome = true ∧
    (classify { allowAggregating := true } Sample.table Sample.fromDTO
      [.named ⟨"", "UserDTO"⟩] [.slice (.named ⟨"", "User"⟩)]).isSome = false := ⟨rfl, rfl⟩

end FieldAudit
