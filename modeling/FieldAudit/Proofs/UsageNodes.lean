import Mathlib
import FieldAudit.Proofs.UsageTree

/-!
# Recording in a usage tree

A record is made in place, at a node that is created on demand together with the nodes above it. That
is merging with the tree that has the new usage at the path and empty nodes above it. The tree that a
sequence of records builds is thus determined by the records in it, whatever their order and number.
-/

namespace FieldAudit

namespace Usage

variable {u v w : Usage}

/-! ## Nodes with fields below them -/

/-- There is a node at the path, with a field below it. -/
def BranchesAt (u : Usage) (path : Path) : Prop :=
  ∃ node, u.node? path = some node ∧ ∃ name, node.hasField name = true

/-- There is a node at the path that is used in part: it is not consumed as a unit, and there is a
    field below it. -/
def PartialAt (u : Usage) (path : Path) : Prop :=
  ∃ node, u.node? path = some node ∧ node.isWhole = false ∧ ∃ name, node.hasField name = true

/-- A node that is used in part has a field below it. -/
lemma PartialAt.branchesAt {path : Path} (h : u.PartialAt path) : u.BranchesAt path := by
  obtain ⟨node, hn, _, hf⟩ := h
  exact ⟨node, hn, hf⟩

/-- A node has a field below it exactly if there is a node one name further. -/
lemma branchesAt_iff {path : Path} :
    u.BranchesAt path ↔ ∃ name, u.hasNode (path ++ [name]) = true := by
  simp only [← isSome_node?, node?_append, BranchesAt]
  cases u.node? path with
  | none => simp
  | some node => simp [isSome_node?, ← hasField_eq_hasNode]

/-- A node below a field is used in part as the usage of the field says. -/
lemma partialAt_cons {name : String} {path : Path} :
    u.PartialAt (name :: path) ↔ u.hasField name = true ∧ (u.sub name).PartialAt path := by
  simp only [PartialAt, node?_cons_eq_some, and_assoc, exists_and_left]

/-- A node below a field has a field below it as the usage of the field says. -/
lemma branchesAt_cons {name : String} {path : Path} :
    u.BranchesAt (name :: path) ↔ u.hasField name = true ∧ (u.sub name).BranchesAt path := by
  simp only [BranchesAt, node?_cons_eq_some, and_assoc, exists_and_left]

/-! ## A usage hung below a path -/

/-- The tree `t` has the usage `v` at a path, empty nodes above it, and nothing else. -/
structure HangsAt (path : Path) (v t : Usage) : Prop where
  node (q : Path) :
    (t.node? q).isSome = true ↔ q <+: path ∨ ∃ r, q = path ++ r ∧ (v.node? r).isSome = true
  whole (q : Path) : t.wholeAt q = true ↔ ∃ r, q = path ++ r ∧ v.wholeAt r = true
  methods (q : Path) (method : String) :
    method ∈ t.methodsAt q ↔ ∃ r, q = path ++ r ∧ method ∈ v.methodsAt r

/-- A question answered below a field alone, by what hangs below the rest of the path, is answered by
    the usage that hangs at the end of the path. -/
lemma exists_append_cons_iff {name next : String} {path q : Path} {P : Path → Prop} :
    (∃ r, next :: q = name :: path ++ r ∧ P r) ↔ next = name ∧ ∃ r, q = path ++ r ∧ P r := by
  simp only [List.cons_append, List.cons.injEq, and_assoc, exists_and_left]

/-- Nothing that is below a field is at the root. -/
lemma not_exists_nil_eq_cons_append {name : String} {path : Path} {P : Path → Prop} :
    ¬ ∃ r, [] = name :: path ++ r ∧ P r := by
  rintro ⟨r, e, _⟩
  cases e

/-- A usage below a path has the nodes of the path and those of the usage below it. -/
lemma hasNode_below {path q : Path} :
    (below path v).hasNode q = true ↔ q <+: path ∨ ∃ r, q = path ++ r ∧ v.hasNode r = true := by
  induction path generalizing q with
  | nil =>
    rw [below_nil]
    constructor
    · intro h
      exact .inr ⟨q, rfl, h⟩
    · rintro (h | ⟨r, rfl, h⟩)
      · rw [List.prefix_nil.1 h]
        rfl
      · exact h
  | cons name path ih =>
    cases q with
    | nil => exact iff_of_true rfl (.inl List.nil_prefix)
    | cons next q =>
      rw [hasNode_below_cons, Bool.and_eq_true, decide_eq_true_eq, ih, List.cons_prefix_cons,
        exists_append_cons_iff, and_or_left]

/-- A usage below a path consumes the values that the usage consumes, seen from above the path. -/
lemma wholeAt_below {path q : Path} :
    (below path v).wholeAt q = true ↔ ∃ r, q = path ++ r ∧ v.wholeAt r = true := by
  induction path generalizing q with
  | nil => simp
  | cons name path ih =>
    cases q with
    | nil => exact iff_of_false Bool.false_ne_true not_exists_nil_eq_cons_append
    | cons next q =>
      rw [wholeAt_below_cons, Bool.and_eq_true, decide_eq_true_eq, ih, exists_append_cons_iff]

/-- A usage below a path calls the methods that the usage calls, on values seen from above the path. -/
lemma mem_methodsAt_below {path q : Path} {method : String} :
    method ∈ (below path v).methodsAt q ↔ ∃ r, q = path ++ r ∧ method ∈ v.methodsAt r := by
  induction path generalizing q with
  | nil => simp
  | cons name path ih =>
    cases q with
    | nil => exact iff_of_false (OrderedSet.not_mem_empty method) not_exists_nil_eq_cons_append
    | cons next q =>
      rw [methodsAt_below_cons, exists_append_cons_iff, ← ih]
      by_cases h : next = name <;> simp [h]

/-- A usage below a path hangs there. -/
lemma hangsAt_below (path : Path) (v : Usage) : HangsAt path v (below path v) where
  node _ := hasNode_below
  whole _ := wholeAt_below
  methods _ _ := mem_methodsAt_below

/-- A usage can be hung below a path in one way only. -/
lemma HangsAt.unique {path : Path} (h : HangsAt path u v) (h' : HangsAt path u w) : v = w := by
  apply ext_at
  · intro q
    rw [Bool.eq_iff_iff, ← isSome_node?, ← isSome_node?, h.node, h'.node]
  · intro q
    rw [Bool.eq_iff_iff, h.whole, h'.whole]
  · intro q
    apply OrderedSet.ext_mem
    intro method
    rw [h.methods, h'.methods]

/-! ## Recording in place -/

/-- Merging at the node of a path is merging with the usage below the path. -/
lemma attach_eq_merge (u : Usage) (path : Path) (v : Usage) :
    u.attach path v = u.merge (below path v) := by
  -- each name of the path sets one direct field, whose usage is treated by the rest of the path
  induction path generalizing u with
  | nil =>
    rw [below_nil]
    rfl
  | cons name path ih =>
    have step : u.attach (name :: path) v = u.setField name ((u.sub name).attach path v) := rfl
    rw [step, ih]
    apply ext_sub
    · simp
    · simp
    · intro key
      rw [hasField_setField, hasField_merge, hasField_below_cons, Bool.or_comm]
      rfl
    · intro key
      rw [sub_setField, sub_merge, sub_below_cons]
      split
      · subst key
        rfl
      · exact (merge_empty _).symm

/-- Reaching a node is merging with an empty chain of nodes. -/
lemma modifyAt_id_eq_merge (u : Usage) (path : Path) :
    u.modifyAt id path = u.merge (below path ∅) := by
  rw [← attach_eq_merge, attach]
  congr 1
  funext node
  exact (merge_empty node).symm

/-- Putting a method into the set of a value is merging with a call of it. -/
lemma insertMethod_eq_merge (method : String) (u : Usage) :
    u.insertMethod method = u.merge (call method) := by
  apply ext_fields
  · rw [isWhole_merge, isWhole_call, Bool.or_false]
    rfl
  · apply OrderedSet.ext_mem
    intro name
    rw [methods_merge, methods_call, OrderedSet.mem_union, OrderedSet.mem_singleton, or_comm]
    exact OrderedSet.mem_insert
  · intro name
    rw [field?_merge]
    rfl

/-- The tree that a step of recording merges into the one before it. -/
def Recording.tree : Recording → Usage
  | attach path v => below path v
  | reach path => below path ∅
  | method path name => below path (call name)
  | merge v => v

/-- A step of recording is a merge. -/
lemma record_eq_merge (u : Usage) (r : Recording) : u.record r = u.merge r.tree := by
  cases r with
  | attach path v => exact attach_eq_merge u path v
  | reach path => exact modifyAt_id_eq_merge u path
  | method path name =>
    rw [Recording.tree, ← attach_eq_merge, attach, record]
    congr 1
    funext node
    exact insertMethod_eq_merge name node
  | merge v => rfl

/-- A sequence of steps merges the trees of all of them. -/
lemma foldl_record (u : Usage) (rs : List Recording) :
    rs.foldl record u = u.merge (mergeAll (rs.map Recording.tree)) := by
  induction rs generalizing u with
  | nil => exact (merge_empty u).symm
  | cons r rs ih =>
    rw [List.foldl_cons, ih, record_eq_merge, List.map_cons, mergeAll_cons, merge_assoc]

/-- Usage trees form a join-semilattice under merging, with the empty tree as its bottom, and merging
    answers at every path whether there is a node, whether it is consumed as a unit and which methods
    are called on it from the answers of the two trees. Merging at the node of a path, which is created
    on demand, is merging with the one tree that has the usage at the path and empty nodes above it;
    reaching a node is merging with the chain of empty nodes. Trees with the same answers are equal.
    What a sequence of steps builds therefore depends on which steps are in it, and neither on their
    order nor on how often they are made. -/
theorem recording_semilattice :
    (∀ u v w : Usage, (u.merge v).merge w = u.merge (v.merge w)) ∧
    (∀ u v : Usage, u.merge v = v.merge u) ∧
    (∀ u : Usage, u.merge u = u ∧ u.merge ∅ = u ∧ merge ∅ u = u) ∧
    (∀ (u v : Usage) (path : Path),
      ((u.merge v).node? path).isSome = ((u.node? path).isSome || (v.node? path).isSome) ∧
      (u.merge v).wholeAt path = (u.wholeAt path || v.wholeAt path) ∧
      (u.merge v).methodsAt path = u.methodsAt path ∪ v.methodsAt path) ∧
    (∀ (path : Path) (v : Usage), ∃ t, HangsAt path v t ∧ (∀ t', HangsAt path v t' → t' = t) ∧
      ∀ u : Usage, u.attach path v = u.merge t) ∧
    (∀ path : Path, ∃ t, HangsAt path ∅ t ∧ ∀ u : Usage, u.modifyAt id path = u.merge t) ∧
    (∀ u v : Usage, (∀ path, (u.node? path).isSome = (v.node? path).isSome ∧
      u.wholeAt path = v.wholeAt path ∧ u.methodsAt path = v.methodsAt path) → u = v) ∧
    ∀ (u : Usage) (rs rs' : List Recording), (∀ r, r ∈ rs ↔ r ∈ rs') →
      rs.foldl record u = rs'.foldl record u := by
  refine ⟨merge_assoc, merge_comm, fun u => ⟨merge_self u, merge_empty u, empty_merge u⟩, ?_, ?_, ?_,
    ?_, ?_⟩
  · intro u v path
    exact ⟨hasNode_merge u v path, wholeAt_merge u v path, methodsAt_merge u v path⟩
  · intro path v
    exact ⟨below path v, hangsAt_below path v, fun t' h => h.unique (hangsAt_below path v),
      fun u => attach_eq_merge u path v⟩
  · intro path
    exact ⟨below path ∅, hangsAt_below path ∅, fun u => modifyAt_id_eq_merge u path⟩
  · intro u v same
    exact ext_at (fun path => (same path).1) (fun path => (same path).2.1) fun path =>
      (same path).2.2
  · intro u rs rs' h
    rw [foldl_record, foldl_record]
    congr 1
    apply mergeAll_congr
    intro v
    simp only [List.mem_map, h]

/-- Three steps build the same tree when they are made in another order and two of them twice. The tree
    has the nodes that the steps reach. -/
theorem recording_reordered :
    let role : Recording := .attach ["Role"] unit
    let name : Recording := .reach ["Role", "Name"]
    let validate : Recording := .method [] "Validate"
    [role, name, validate].foldl record ∅ = [validate, name, role, validate, name].foldl record ∅ ∧
      (([role, name, validate].foldl record ∅).node? ["Role", "Name"]).isSome = true ∧
      ([role, name, validate].foldl record ∅).wholeAt ["Role"] = true ∧
      ([role, name, validate].foldl record ∅).methodsAt [] = {"Validate"} := by
  intro role name validate
  obtain ⟨_, _, _, _, _, _, _, same⟩ := recording_semilattice
  refine ⟨same ∅ [role, name, validate] [validate, name, role, validate, name] (by grind), ?_, ?_, ?_⟩
  · decide +kernel
  · decide +kernel
  · decide +kernel

end Usage

end FieldAudit
