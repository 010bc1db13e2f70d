import Mathlib
import FieldAudit.Proofs.Collection
import FieldAudit.Proofs.Judgement
import FieldAudit.Proofs.MissingFields

/-!
# Positional literals of the destination

A literal with a positional element marks the result as consumed as a unit. The mark is kept up to
the tree that the fields of the destination are reconciled with, but there it is read at fields only
and not at the value itself: what is missing is what would be missing without it.
-/

namespace FieldAudit

namespace Usage

/-- The elements of a literal consume the value as a unit exactly if one of them is positional. -/
lemma isWhole_ofElements {elements : List (Element Expr)} :
    (ofElements elements).isWhole = true ↔ ∃ value, .positional value ∈ elements := by
  induction elements with
  | nil => simp [ofElements]
  | cons element elements ih =>
    rw [ofElements, isWhole_merge, Bool.or_eq_true, ih]
    cases element with
    | positional value => simp [ofElement]
    | keyed key value => simp [ofElement]
    | field key value => simp [ofElement]

end Usage

/-- Some statement of the body hands over a literal of the named type, bare or behind `&`, with a
    positional element. -/
def Block.BuildsPositionally (body : Block) (typeName : String) : Prop :=
  ∃ s value type elements element, Block.Contains body (.stmt s) ∧ value ∈ s.produced ∧
    value.unaddress = .composite (some type) elements ∧ type.hasBase typeName = true ∧
    .positional element ∈ elements

/-- A positional literal of the destination marks the result as consumed as a unit. -/
lemma Block.BuildsPositionally.isWhole {body : Block} {typeName : String}
    (hl : Block.BuildsPositionally body typeName) (resultName : Option String) :
    (Block.outputUsage body resultName typeName).usage.tree.isWhole = true := by
  obtain ⟨s, value, type, elements, element, hs, hv, he, ht, hp⟩ := hl
  rw [Block.tree_outputUsage, Usage.isWhole_merge, Block.constructions_eq, Usage.isWhole_mergeAll,
    Bool.or_eq_true, List.any_eq_true]
  refine .inr ⟨Usage.ofElements elements, ?_, Usage.isWhole_ofElements.2 ⟨element, hp⟩⟩
  rw [List.mem_filterMap]
  refine ⟨value, ?_, Usage.constructed?_of_unaddress he ht⟩
  exact List.mem_flatMap.2 ⟨s, Block.mem_statements.2 hs, hv⟩

section

variable {settings : Settings} {table : TypeTable} {side : Side} {usage : Usage}
  {fields counterpart : List FieldInfo}

/-- The mark of the value itself is not read: without it the same fields are missing. -/
lemma missingFields_unmarked :
    missingFields settings table side usage.unmarked fields counterpart =
      missingFields settings table side usage fields counterpart :=
  missingFields_congr usage.field?_unmarked rfl

/-- A function that builds its destination positionally has the destination marked as consumed as a
    unit, and yet nothing is missing on that side exactly if every field of the destination is
    covered without the mark. -/
theorem missingDest_positional_iff {decl : FuncDecl} {sig : Signature} {pair : ConverterPair}
    {body : Block} {v : Verdict} (h : judge settings table decl sig = .ok v)
    (hd : v.delegating = false) (hp : selectPair settings table decl sig = .ok pair)
    (hb : decl.body = some body)
    (hl : Block.BuildsPositionally body pair.dest.candidate.name) :
    (Block.outputUsage body pair.dest.name pair.dest.candidate.name).usage.tree.isWhole = true ∧
      (v.missingDest = [] ↔
        ∀ f ∈ pair.dest.candidate.fields,
          Covered settings table .destination
            (Block.outputUsage body pair.dest.name pair.dest.candidate.name).usage.tree.unmarked
            pair.source.candidate.fields f) := by
  refine ⟨hl.isWhole pair.dest.name, ?_⟩
  -- the report is made from the marked tree, but it is the one on the unmarked tree
  rw [← missingFields_eq_nil_iff, missingFields_unmarked]
  cases judged_of_judge h with
  | noBody _ _ hb' =>
    rw [hb] at hb'
    cases hb'
  | delegating _ _ _ _ => cases hd
  | body hp' hx hb' hd' =>
    obtain rfl := Except.ok.inj (hp.symm.trans hp')
    obtain rfl := Option.some.inj (hb.symm.trans hb')
    exact qualify_eq_nil

end

namespace Sample

/-- The literal `UserDTO{u.ID, u.Name}`. -/
def positional : Expr :=
  .composite (some (.named none "UserDTO"))
    [.positional (.selector (.ident "u") "ID"), .positional (.selector (.ident "u") "Name")]

/-- A body that builds the result positionally and then sets both fields by name. -/
def positionalThenNamed : Block :=
  [.assign [.ident "dto"] .define [positional],
   .assign [.selector (.ident "dto") "ID"] .assign [.selector (.ident "u") "ID"],
   .assign [.selector (.ident "dto") "Name"] .assign [.selector (.ident "u") "Name"],
   .ret [.ident "dto"]]

end Sample

/-- Where both fields are also set by name, nothing is missing. -/
theorem missingDest_positional_named :
    ∃ v, judge {} Sample.table (Sample.toDTO Sample.positionalThenNamed) Sample.sig = .ok v ∧
      v.delegating = false ∧ v.missingDest = [] := by
  have hl : Block.BuildsPositionally Sample.positionalThenNamed "UserDTO" :=
    ⟨_, Sample.positional, _, _, _, ⟨_, List.mem_cons_self, .refl _⟩, List.mem_cons_self, rfl,
      by decide, List.mem_cons_self⟩
  have hj := judge_of_body (Sample.selectPair_toDTO Sample.positionalThenNamed) rfl rfl rfl
  refine ⟨_, hj, rfl, ?_⟩
  refine (missingDest_positional_iff hj rfl (Sample.selectPair_toDTO _) rfl hl).2.2 ?_
  exact missingFields_eq_nil_iff.1 (by decide +kernel)

/-- A function that returns the positional literal alone is reported for both fields that it sets. -/
theorem missingDest_positional_alone :
    Block.BuildsPositionally [.ret [Sample.positional]] "UserDTO" ∧
      ∃ v, judge {} Sample.table (Sample.toDTO [.ret [Sample.positional]]) Sample.sig = .ok v ∧
        v.delegating = false ∧ v.valid = false ∧ v.missingDest = ["ID", "Name"] := by
  refine ⟨⟨_, Sample.positional, _, _, _, ⟨_, List.mem_cons_self, .refl _⟩, List.mem_cons_self, rfl,
    by decide, List.mem_cons_self⟩, ?_⟩
  refine ⟨_, judge_of_body (Sample.selectPair_toDTO _) rfl rfl rfl, rfl, ?_, ?_⟩
  · decide +kernel
  · decide +kernel

end FieldAudit
