import Mathlib
import FieldAudit.Proofs.Composition
import FieldAudit.Proofs.Delegation
import FieldAudit.Proofs.UsageNodes

/-!
# Elements of a source that is ranged over

What is done with the elements of a sequence or a map counts as done with the source, but one element
variable is followed only: that of the first range over the source, in the order in which the statements
stand in the body, which has a name for its elements. Ranges without such a name are passed over. The
reads of a later range under another name are not part of the usage of the source.
-/

namespace FieldAudit

namespace VariableUsage

/-- All that the second usage records is recorded in the first one, in the sets and in the tree. -/
structure Includes (u v : VariableUsage) : Prop where
  fields : ∀ name ∈ v.fields, name ∈ u.fields
  methods : ∀ method ∈ v.methods, method ∈ u.methods
  ignored : ∀ name ∈ v.ignored, name ∈ u.ignored
  node : ∀ path, v.tree.hasNode path = true → u.tree.hasNode path = true
  whole : ∀ path, v.tree.wholeAt path = true → u.tree.wholeAt path = true
  called : ∀ path, ∀ method ∈ v.tree.methodsAt path, method ∈ u.tree.methodsAt path

/-- A merged usage includes the first one. -/
lemma merge_includes_left (u v : VariableUsage) : (u.merge v).Includes u where
  fields _ h := OrderedSet.mem_union.2 (.inl h)
  methods _ h := OrderedSet.mem_union.2 (.inl h)
  ignored _ h := OrderedSet.mem_union.2 (.inl h)
  node path h := by
    rw [merge, Usage.hasNode_merge, h, Bool.true_or]
  whole path h := by
    rw [merge, Usage.wholeAt_merge, h, Bool.true_or]
  called path method h := by
    rw [merge, Usage.methodsAt_merge, OrderedSet.mem_union]
    exact .inl h

/-- A merged usage includes the second one. -/
lemma merge_includes_right (u v : VariableUsage) : (u.merge v).Includes v := by
  rw [merge_comm]
  exact merge_includes_left v u

end VariableUsage

/-- The statement is a range over a variable, in parentheses or not, that gives the elements this
    name. -/
def Stmt.RangesOver (s : Stmt) (var element : String) : Prop :=
  element ≠ "_" ∧ ∃ key define subject inner,
    s = .range key (some (.ident element)) define subject inner ∧ subject.unparen = .ident var

/-- The first statement of the body that is a range over a variable, with a name for the elements, gives
    them this name. Statements are taken in source order, each before those inside it. -/
def Block.FirstRange (body : Block) (var element : String) : Prop :=
  ∃ before s after, Block.statements body = before ++ s :: after ∧ s.RangesOver var element ∧
    ∀ t ∈ before, ∀ name, ¬ t.RangesOver var name

/-- A statement gives no variable for the elements exactly if it does not loop over the variable. -/
lemma Stmt.rangeElement?_eq_none {s : Stmt} {var : String} :
    s.rangeElement? var = none ↔ ∀ name, ¬ s.RangesOver var name := by
  rw [Option.eq_none_iff_forall_ne_some]
  exact forall_congr' fun name => not_congr Stmt.rangeElement?_eq_some

namespace Block

/-- The search of a body finds the element of the first range over the variable. -/
lemma rangeElement?_eq_some {body : Block} {var element : String} :
    Block.rangeElement? body var = some element ↔ Block.FirstRange body var element := by
  rw [Block.rangeElement?_eq, List.findSome?_eq_some_iff]
  constructor
  · rintro ⟨before, s, after, e, hs, hb⟩
    exact ⟨before, s, after, e, Stmt.rangeElement?_eq_some.1 hs,
      fun t ht => Stmt.rangeElement?_eq_none.1 (hb t ht)⟩
  · rintro ⟨before, s, after, e, hs, hb⟩
    exact ⟨before, s, after, e, Stmt.rangeElement?_eq_some.2 hs,
      fun t ht => Stmt.rangeElement?_eq_none.2 (hb t ht)⟩

/-- Where there is a loop over the variable, there is a first one. -/
lemma exists_firstRange {body : Block} {var element : String} (h : Block.Ranges body var element) :
    ∃ first, Block.FirstRange body var first := by
  have found := isSome_rangeElement?.2 ⟨element, h⟩
  obtain ⟨first, hf⟩ := Option.isSome_iff_exists.1 found
  exact ⟨first, rangeElement?_eq_some.1 hf⟩

/-- A body without a loop over the variable gives no variable for the elements. -/
lemma rangeElement?_eq_none {body : Block} {var : String}
    (h : ∀ element, ¬ Block.Ranges body var element) : Block.rangeElement? body var = none := by
  rw [← Option.not_isSome_iff_eq_none, isSome_rangeElement?, not_exists]
  exact h

/-- The usage of a container is that of its variable, with that of the element variable if there is
    one. -/
lemma sourceUsage_of_container {shape : Shape} (hs : shape = .sequence ∨ shape = .mapping)
    (body : Block) (var : String) :
    Block.sourceUsage body shape var =
      (Block.rangeElement? body var).elim (VariableUsage.collect body var) fun element =>
        (VariableUsage.collect body var).merge (VariableUsage.collect body element) := by
  have hc : shape.isSingle = false := by
    rcases hs with rfl | rfl <;> rfl
  simp only [Block.sourceUsage, hc, Bool.false_eq_true, if_false]
  cases Block.rangeElement? body var <;> rfl

end Block

/-- The usage of a sequence or a map is that of its variable together with that of the element variable
    of the first range over it, all of both included. Such a first range exists as soon as there is any
    range over the variable with a name for the elements, and without one nothing is added. -/
theorem sourceUsage_first_range {shape : Shape} (hs : shape = .sequence ∨ shape = .mapping)
    (body : Block) (var : String) :
    (∀ first, Block.FirstRange body var first →
      Block.sourceUsage body shape var =
        (VariableUsage.collect body var).merge (VariableUsage.collect body first) ∧
      (Block.sourceUsage body shape var).Includes (VariableUsage.collect body var) ∧
      (Block.sourceUsage body shape var).Includes (VariableUsage.collect body first)) ∧
    (∀ element, Block.Ranges body var element → ∃ first, Block.FirstRange body var first) ∧
    ((∀ element, ¬ Block.Ranges body var element) →
      Block.sourceUsage body shape var = VariableUsage.collect body var) := by
  rw [Block.sourceUsage_of_container hs]
  refine ⟨?_, ?_, ?_⟩
  · intro first hf
    rw [Block.rangeElement?_eq_some.2 hf, Option.elim_some]
    exact ⟨rfl, VariableUsage.merge_includes_left _ _, VariableUsage.merge_includes_right _ _⟩
  · intro element h
    exact Block.exists_firstRange h
  · intro h
    rw [Block.rangeElement?_eq_none h, Option.elim_none]

namespace Sample

/-- A body with two ranges over the source under different names:

        for _, a := range in {
            ids = append(ids, a.ID)
        }
        for i, b := range in {
            out = append(out, UserDTO{ID: ids[i], Name: b.Name})
        }
        return out
-/
def twoRanges : Block :=
  [.range (some (.ident "_")) (some (.ident "a")) true (.ident "in")
    [.assign [.ident "ids"] .assign
      [.call (.ident "append") [.ident "ids", .selector (.ident "a") "ID"]]],
   .range (some (.ident "i")) (some (.ident "b")) true (.ident "in")
    [.assign [.ident "out"] .assign
      [.call (.ident "append") [.ident "out",
        .composite (some (.named none "UserDTO"))
          [.field "ID" (.index (.ident "ids") [.ident "i"]),
           .field "Name" (.selector (.ident "b") "Name")]]]],
   .ret [.ident "out"]]

end Sample

/-- The first of the two ranges is followed. -/
theorem sourceUsage_first_of_two :
    Block.FirstRange Sample.twoRanges "in" "a" ∧
      Block.sourceUsage Sample.twoRanges .sequence "in" =
        (VariableUsage.collect Sample.twoRanges "in").merge
          (VariableUsage.collect Sample.twoRanges "a") ∧
      (Block.sourceUsage Sample.twoRanges .sequence "in").Includes
        (VariableUsage.collect Sample.twoRanges "a") := by
  have first : Block.FirstRange Sample.twoRanges "in" "a" :=
    Block.rangeElement?_eq_some.1 (by decide +kernel)
  obtain ⟨usage, _, element⟩ := (sourceUsage_first_range (.inl rfl) Sample.twoRanges "in").1 "a" first
  exact ⟨first, usage, element⟩

/-- The second of the two ranges reads `Name`, which is not part of the usage of the source. -/
theorem sourceUsage_second_of_two :
    Block.Ranges Sample.twoRanges "in" "b" ∧
      "Name" ∈ (VariableUsage.collect Sample.twoRanges "b").fields ∧
      "Name" ∉ (Block.sourceUsage Sample.twoRanges .sequence "in").fields ∧
      ¬ (Block.sourceUsage Sample.twoRanges .sequence "in").Includes
        (VariableUsage.collect Sample.twoRanges "b") := by
  have read : "Name" ∈ (VariableUsage.collect Sample.twoRanges "b").fields := by decide +kernel
  have unread : "Name" ∉ (Block.sourceUsage Sample.twoRanges .sequence "in").fields := by
    decide +kernel
  refine ⟨⟨by decide, _, _, _, _, ⟨_, List.mem_cons_of_mem _ List.mem_cons_self, .refl _⟩, rfl⟩, read,
    unread, ?_⟩
  intro included
  exact unread (included.fields "Name" read)

end FieldAudit
