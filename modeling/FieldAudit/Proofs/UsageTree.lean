import Mathlib
import FieldAudit.Usage.Basic

/-!
# Usages as trees

A usage is determined by its root: whether the value is consumed as a unit, the methods called on it
and the usages of its direct fields. It is also determined by three answers at every path: whether
there is a node, whether it is consumed as a unit, and which methods are called on it. Merging answers
them by disjunction and union, so that usages form a join-semilattice with the empty usage as its
bottom, and every question asked of a tree distributes over the merge of a list.
-/

namespace FieldAudit

namespace OrderedSet

variable {α : Type} [LT α] [DecidableLT α] [Std.Trichotomous (α := α) (· < ·)]
  [Std.Irrefl (α := α) (· < ·)] [Trans (α := α) (· < ·) (· < ·) (· < ·)]

/-- Union is associative. -/
lemma union_assoc (s t u : OrderedSet α) : s ∪ t ∪ u = s ∪ (t ∪ u) := by
  apply ext_mem
  simp [or_assoc]

/-- Union is commutative. -/
lemma union_comm (s t : OrderedSet α) : s ∪ t = t ∪ s := by
  apply ext_mem
  simp [or_comm]

/-- The union of a set with itself is the set. -/
lemma union_self (s : OrderedSet α) : s ∪ s = s := by
  apply ext_mem
  simp

/-- The empty set adds nothing from the left. -/
@[simp] lemma empty_union (s : OrderedSet α) : ∅ ∪ s = s := by
  apply ext_mem
  simp

/-- The empty set adds nothing from the right. -/
@[simp] lemma union_empty (s : OrderedSet α) : s ∪ ∅ = s := by
  apply ext_mem
  simp

end OrderedSet

namespace UsageNode

/-- Under a name of the merged children stands what was there, with the child of the name merged
    into it. -/
lemma find?_mergeChildren {own children : List (String × UsageNode)}
    (h : Entries.Sorted children) (name : String) :
    Entries.find? name (mergeChildren own children) =
      (Entries.find? name children).elim (Entries.find? name own) fun child =>
        some (((Entries.find? name own).getD ∅).merge child) := by
  -- the own children grow along the way, but only under names that do not come again
  induction children generalizing own with
  | nil =>
    rw [mergeChildren]
    rfl
  | cons first rest ih =>
    obtain ⟨key, child⟩ := first
    obtain ⟨hfirst, hrest⟩ := List.pairwise_cons.1 h
    rw [mergeChildren, ih hrest, Entries.find?_put, Entries.find?]
    by_cases hk : key = name
    · subst hk
      rw [Entries.find?_eq_none hfirst, if_pos rfl, if_pos rfl]
      rfl
    · rw [if_neg hk, if_neg hk]

/-- A merged node is consumed as a unit if one of the two is. -/
lemma whole_merge (node other : UsageNode) : (node.merge other).whole = (node.whole || other.whole) := by
  cases other
  rw [merge]
  rfl

/-- A merged node has the methods of both. -/
lemma methods_merge (node other : UsageNode) :
    (node.merge other).methods = node.methods ∪ other.methods := by
  cases other
  rw [merge]
  rfl

/-- The child of a merged node: that of the first, with that of the second merged into it where there
    is one. -/
lemma child?_merge (node : UsageNode) {other : UsageNode} (h : other.Ordered) (name : String) :
    (node.merge other).child? name = (other.child? name).elim (node.child? name) fun child =>
      some (((node.child? name).getD ∅).merge child) := by
  have hs := h.sorted
  cases other
  rw [merge]
  exact find?_mergeChildren hs name

end UsageNode

namespace Usage

variable {u v w : Usage}

/-! ## The root of a tree -/

/-- The direct fields are the children of the node of the value. -/
lemma field?_eq_some_iff {name : String} {child : Usage} :
    u.field? name = some child ↔ u.node.child? name = some child.node := by
  refine ⟨child?_of_field?, fun h => ?_⟩
  exact Option.pmap_eq_some_iff.2 ⟨child.node, child.ordered, h, rfl⟩

/-- The node of a direct field is the child of its name. -/
lemma map_node_field? (u : Usage) (name : String) :
    (u.field? name).map node = u.node.child? name := by
  cases hc : u.node.child? name with
  | none =>
    rw [Option.map_eq_none_iff, Option.eq_none_iff_forall_ne_some]
    intro child hf
    rw [field?_eq_some_iff, hc] at hf
    cases hf
  | some node =>
    have hf : u.field? name = some ⟨node, u.ordered.child? hc⟩ := field?_eq_some_iff.2 hc
    rw [hf]
    rfl

/-- Usages with the same nodes are equal. -/
lemma node_injective : Function.Injective node := by
  rintro ⟨n, _⟩ ⟨m, _⟩ rfl
  rfl

/-- Usages that agree at the root and in all direct fields are equal. -/
lemma ext_fields (hw : u.isWhole = v.isWhole) (hm : u.methods = v.methods)
    (hf : ∀ name, u.field? name = v.field? name) : u = v := by
  apply node_injective
  have hc : u.node.children = v.node.children := by
    apply Entries.ext_find? u.ordered.sorted v.ordered.sorted
    intro name
    have := congrArg (Option.map node) (hf name)
    rwa [map_node_field?, map_node_field?] at this
  cases hu : u.node with
  | mk children methods whole =>
    cases hv : v.node with
    | mk children' methods' whole' =>
      simp only [isWhole, Usage.methods, hu, hv] at hw hm hc
      cases hw
      cases hm
      cases hc
      rfl

/-- What holds of a usage if it holds of the usages of its direct fields holds of every usage. -/
@[elab_as_elim]
lemma induct {P : Usage → Prop}
    (step : ∀ u : Usage, (∀ name child, u.field? name = some child → P child) → P u) (u : Usage) :
    P u := by
  obtain ⟨node, ordered⟩ := u
  induction node using UsageNode.induct with
  | step children methods whole ih =>
    apply step
    intro name child hf
    have mem := Entries.mem_of_find? (field?_eq_some_iff.1 hf)
    exact ih _ mem child.ordered

/-- A direct field that is there is one with a usage. -/
lemma hasField_of_field? {name : String} {child : Usage} (h : u.field? name = some child) :
    u.hasField name = true := by
  rw [hasField, h]
  rfl

/-- The usage of a direct field that is there. -/
lemma sub_of_field? {name : String} {child : Usage} (h : u.field? name = some child) :
    u.sub name = child := by
  rw [sub, h]
  rfl

/-- A direct field without a node has an empty usage. -/
lemma sub_of_not_hasField {name : String} (h : u.hasField name = false) : u.sub name = ∅ := by
  rw [hasField, Option.isSome_eq_false_iff, Option.isNone_iff_eq_none] at h
  rw [sub, h]
  rfl

/-- The usage of a direct field, by whether it is there. -/
lemma field?_eq (u : Usage) (name : String) :
    u.field? name = if u.hasField name then some (u.sub name) else none := by
  cases h : u.field? name with
  | none => simp [hasField, h]
  | some child => rw [hasField_of_field? h, sub_of_field? h, if_pos rfl]

/-- Usages that agree at the root and in the direct fields that they have are equal. -/
lemma ext_sub (hw : u.isWhole = v.isWhole) (hm : u.methods = v.methods)
    (hf : ∀ name, u.hasField name = v.hasField name) (hs : ∀ name, u.sub name = v.sub name) :
    u = v := by
  apply ext_fields hw hm
  intro name
  rw [field?_eq, field?_eq, hf, hs]

/-- Going down to a field that is there shortens the recorded paths. -/
lemma depth_sub_lt {name : String} (h : u.hasField name = true) : (u.sub name).depth < u.depth := by
  apply depth_field?_lt
  rw [field?_eq, if_pos h]

/-- The names of the direct fields are those with a node. -/
@[simp] lemma mem_fieldNames {name : String} : name ∈ u.fieldNames ↔ u.hasField name = true := by
  rw [OrderedSet.mem_def, fieldNames, List.mem_map, hasField, Option.isSome_iff_exists]
  constructor
  · rintro ⟨⟨key, node⟩, hm, rfl⟩
    have hc : u.node.child? key = some node := u.ordered.sorted.find?_of_mem hm
    exact ⟨⟨node, u.ordered.child? hc⟩, field?_eq_some_iff.2 hc⟩
  · rintro ⟨child, hf⟩
    exact ⟨_, Entries.mem_of_find? (field?_eq_some_iff.1 hf), rfl⟩

/-- A direct field has a usage of its own exactly if it has a node. -/
lemma isSome_field? (u : Usage) (name : String) : (u.field? name).isSome = u.hasField name := rfl

/-- The empty usage has no direct field. -/
@[simp] lemma hasField_empty (name : String) : (∅ : Usage).hasField name = false := rfl

/-- A value that is consumed as a unit has no direct field for that. -/
@[simp] lemma hasField_unit (name : String) : unit.hasField name = false := rfl

/-- The receiver of a call has no direct field for that. -/
@[simp] lemma hasField_call (method name : String) : (call method).hasField name = false := rfl

/-- Nothing is recorded below the empty usage. -/
@[simp] lemma sub_empty (name : String) : (∅ : Usage).sub name = ∅ := rfl

/-- The empty usage does not consume the value. -/
@[simp] lemma isWhole_empty : (∅ : Usage).isWhole = false := rfl

/-- The unit usage consumes the value. -/
@[simp] lemma isWhole_unit : unit.isWhole = true := rfl

/-- A call of a method does not consume the value. -/
@[simp] lemma isWhole_call (method : String) : (call method).isWhole = false := rfl

/-- The empty usage calls no method. -/
@[simp] lemma methods_empty : (∅ : Usage).methods = ∅ := rfl

/-- No method is called in the empty usage. -/
@[simp] lemma not_mem_methods_empty (method : String) : method ∉ (∅ : Usage).methods :=
  OrderedSet.not_mem_empty method

/-- A call is recorded with its method. -/
@[simp] lemma methods_call (method : String) : (call method).methods = {method} := rfl

/-! ## Merging at the root -/

/-- A merge is consumed as a unit if one of the usages is. -/
@[simp] lemma isWhole_merge (u v : Usage) : (u.merge v).isWhole = (u.isWhole || v.isWhole) :=
  UsageNode.whole_merge u.node v.node

/-- A merge has the methods of both usages. -/
@[simp] lemma methods_merge (u v : Usage) : (u.merge v).methods = u.methods ∪ v.methods :=
  UsageNode.methods_merge u.node v.node

/-- A method is called in a merge if it is called in one of the usages. -/
lemma mem_methods_merge {method : String} :
    method ∈ (u.merge v).methods ↔ method ∈ u.methods ∨ method ∈ v.methods := by
  rw [methods_merge, OrderedSet.mem_union]

/-- The usage of a direct field in a merge: that of the first usage, with that of the second merged
    into it where there is one. -/
lemma field?_merge (u v : Usage) (name : String) :
    (u.merge v).field? name =
      (v.field? name).elim (u.field? name) fun child => some ((u.sub name).merge child) := by
  have own : (u.node.child? name).getD ∅ = (u.sub name).node := by
    rw [← map_node_field?, sub]
    cases u.field? name <;> rfl
  have merged := UsageNode.child?_merge u.node v.ordered name
  apply Option.map_injective node_injective
  rw [map_node_field?, merge, merged, own, ← map_node_field? v, ← map_node_field? u]
  cases v.field? name <;> rfl

/-- A merge has the direct fields of both usages. -/
@[simp] lemma hasField_merge (u v : Usage) (name : String) :
    (u.merge v).hasField name = (u.hasField name || v.hasField name) := by
  rw [hasField, field?_merge, hasField, hasField]
  cases v.field? name <;> simp

/-- The empty usage adds nothing from the right. -/
@[simp] lemma merge_empty (u : Usage) : merge u ∅ = u := by
  apply ext_fields
  · rw [isWhole_merge, isWhole_empty, Bool.or_false]
  · rw [methods_merge, methods_empty, OrderedSet.union_empty]
  · intro name
    rw [field?_merge]
    rfl

/-- The usage of a direct field in a merge is the merge of its usages. -/
@[simp] lemma sub_merge (u v : Usage) (name : String) :
    (u.merge v).sub name = (u.sub name).merge (v.sub name) := by
  rw [sub, field?_merge, sub, sub]
  cases v.field? name with
  | none => exact (merge_empty _).symm
  | some child => rfl

/-! ## The nodes of a tree -/

/-- The usage of the value at a path, found by going down field by field. -/
def node? (u : Usage) : Path → Option Usage
  | [] => some u
  | name :: path => (u.field? name).bind fun child => child.node? path

/-- Whether there is a node at a path; the value itself always has one. -/
def hasNode (u : Usage) (path : Path) : Bool := (u.node? path).isSome

/-- Whether the value at a path is consumed as a unit. -/
def wholeAt (u : Usage) (path : Path) : Bool := (u.node? path).any isWhole

/-- The methods called on the value at a path. -/
def methodsAt (u : Usage) (path : Path) : NameSet := (u.node? path).elim ∅ methods

/-- The node at the empty path is that of the value itself. -/
@[simp] lemma node?_nil (u : Usage) : u.node? [] = some u := rfl

/-- The node below a field is looked for in the usage of the field. -/
lemma node?_cons (u : Usage) (name : String) (path : Path) :
    u.node? (name :: path) = (u.field? name).bind fun child => child.node? path := rfl

/-- A node below a field is one of the usage of the field, which has to be there. -/
lemma node?_cons_eq_some {name : String} {path : Path} {node : Usage} :
    u.node? (name :: path) = some node ↔
      u.hasField name = true ∧ (u.sub name).node? path = some node := by
  rw [node?_cons, field?_eq]
  cases u.hasField name <;> simp

/-- Below a field stands what its usage has there, unless the field has no node and an empty usage. -/
lemma node?_cons_cases (u : Usage) (name : String) (path : Path) :
    u.node? (name :: path) = (u.sub name).node? path ∨
      u.node? (name :: path) = none ∧ u.sub name = ∅ := by
  rw [node?_cons, field?_eq]
  cases h : u.hasField name with
  | true => exact .inl rfl
  | false => exact .inr ⟨rfl, sub_of_not_hasField h⟩

/-- The way to a node may be gone in two stretches. -/
lemma node?_append (u : Usage) (p q : Path) :
    u.node? (p ++ q) = (u.node? p).bind fun node => node.node? q := by
  induction p generalizing u with
  | nil => rfl
  | cons name p ih =>
    rw [List.cons_append, node?_cons, node?_cons]
    cases u.field? name with
    | none => rfl
    | some child => exact ih child

/-- There is a node at a path exactly if one is found. -/
lemma isSome_node? (u : Usage) (path : Path) : (u.node? path).isSome = u.hasNode path := rfl

/-- The value itself has a node. -/
@[simp] lemma hasNode_nil (u : Usage) : u.hasNode [] = true := rfl

/-- There is a node below a field exactly if the field is there and its usage has the node. -/
lemma hasNode_cons (u : Usage) (name : String) (path : Path) :
    u.hasNode (name :: path) = (u.hasField name && (u.sub name).hasNode path) := by
  rw [hasNode, node?_cons, field?_eq]
  cases u.hasField name <;> rfl

/-- A direct field is there exactly if it has a node. -/
lemma hasField_eq_hasNode (u : Usage) (name : String) : u.hasField name = u.hasNode [name] := by
  rw [hasNode_cons, hasNode_nil, Bool.and_true]

/-- The empty usage has no node below the value. -/
@[simp] lemma hasNode_empty_cons (name : String) (path : Path) :
    (∅ : Usage).hasNode (name :: path) = false := rfl

/-- The unit usage has no node below the value. -/
@[simp] lemma hasNode_unit_cons (name : String) (path : Path) :
    unit.hasNode (name :: path) = false := rfl

/-- A call has no node below its receiver. -/
@[simp] lemma hasNode_call_cons (method name : String) (path : Path) :
    (call method).hasNode (name :: path) = false := rfl

/-- The root is consumed as a unit exactly if the value is. -/
@[simp] lemma wholeAt_nil (u : Usage) : u.wholeAt [] = u.isWhole := rfl

/-- No value in the empty usage is consumed. -/
@[simp] lemma wholeAt_empty (path : Path) : (∅ : Usage).wholeAt path = false := by
  cases path <;> rfl

/-- The unit usage consumes no value but the one at its root. -/
@[simp] lemma wholeAt_unit {path : Path} : unit.wholeAt path = true ↔ path = [] := by
  cases path with
  | nil => exact iff_of_true rfl rfl
  | cons name path => exact iff_of_false nofun nofun

/-- A value below a field is consumed as a unit as the usage of the field says. -/
lemma wholeAt_cons (u : Usage) (name : String) (path : Path) :
    u.wholeAt (name :: path) = (u.sub name).wholeAt path := by
  rcases node?_cons_cases u name path with h | ⟨h, empty⟩
  · rw [wholeAt, wholeAt, h]
  · rw [empty, wholeAt_empty, wholeAt, h]
    rfl

/-- No method is called in the empty usage. -/
@[simp] lemma methodsAt_empty (path : Path) : (∅ : Usage).methodsAt path = ∅ := by
  cases path <;> rfl

/-- No method is called in the unit usage. -/
@[simp] lemma methodsAt_unit (path : Path) : unit.methodsAt path = ∅ := by
  cases path <;> rfl

/-- The methods called on a value below a field are those that the usage of the field has. -/
lemma methodsAt_cons (u : Usage) (name : String) (path : Path) :
    u.methodsAt (name :: path) = (u.sub name).methodsAt path := by
  rcases node?_cons_cases u name path with h | ⟨h, empty⟩
  · rw [methodsAt, methodsAt, h]
  · rw [empty, methodsAt_empty, methodsAt, h]
    rfl

/-- Trees with the same nodes, which are consumed as units alike and have the same methods, are
    equal. -/
lemma ext_at (hn : ∀ path, u.hasNode path = v.hasNode path)
    (hw : ∀ path, u.wholeAt path = v.wholeAt path)
    (hm : ∀ path, u.methodsAt path = v.methodsAt path) : u = v := by
  induction u using induct generalizing v with
  | step u ih =>
    have hf (name : String) : u.hasField name = v.hasField name := by
      rw [hasField_eq_hasNode, hasField_eq_hasNode, hn]
    refine ext_sub (hw []) (hm []) hf fun name => ?_
    cases h : u.hasField name with
    | false =>
      have h' : v.hasField name = false := by rw [← hf, h]
      rw [sub_of_not_hasField h, sub_of_not_hasField h']
    | true =>
      have h' : v.hasField name = true := by rw [← hf, h]
      apply ih name (u.sub name) (by rw [field?_eq, if_pos h])
      · intro path
        have := hn (name :: path)
        rwa [hasNode_cons, hasNode_cons, h, h'] at this
      · intro path
        rw [← wholeAt_cons, ← wholeAt_cons, hw]
      · intro path
        rw [← methodsAt_cons, ← methodsAt_cons, hm]

/-! ## Merging at every node -/

/-- A merge has a node exactly where one of the trees has one. -/
lemma hasNode_merge (u v : Usage) (path : Path) :
    (u.merge v).hasNode path = (u.hasNode path || v.hasNode path) := by
  induction path generalizing u v with
  | nil => rfl
  | cons name path ih =>
    rw [hasNode_cons, hasNode_cons, hasNode_cons, hasField_merge, sub_merge, ih]
    -- a field that is not there has an empty usage, whose only node is the root
    cases hu : u.hasField name with
    | true =>
      cases hv : v.hasField name with
      | true => rfl
      | false =>
        rw [sub_of_not_hasField hv]
        cases path <;> simp
    | false =>
      rw [sub_of_not_hasField hu]
      cases path <;> simp

/-- A value is consumed as a unit in a merge exactly if it is in one of the trees. -/
lemma wholeAt_merge (u v : Usage) (path : Path) :
    (u.merge v).wholeAt path = (u.wholeAt path || v.wholeAt path) := by
  induction path generalizing u v with
  | nil => exact isWhole_merge u v
  | cons name path ih => rw [wholeAt_cons, wholeAt_cons, wholeAt_cons, sub_merge, ih]

/-- The methods called on a value in a merge are those of both trees. -/
lemma methodsAt_merge (u v : Usage) (path : Path) :
    (u.merge v).methodsAt path = u.methodsAt path ∪ v.methodsAt path := by
  induction path generalizing u v with
  | nil => exact methods_merge u v
  | cons name path ih => rw [methodsAt_cons, methodsAt_cons, methodsAt_cons, sub_merge, ih]

/-- Merging is associative. -/
lemma merge_assoc (u v w : Usage) : (u.merge v).merge w = u.merge (v.merge w) := by
  apply ext_at
  · intro path
    simp only [hasNode_merge, Bool.or_assoc]
  · intro path
    simp only [wholeAt_merge, Bool.or_assoc]
  · intro path
    simp only [methodsAt_merge, OrderedSet.union_assoc]

/-- Merging is commutative. -/
lemma merge_comm (u v : Usage) : u.merge v = v.merge u := by
  apply ext_at
  · intro path
    rw [hasNode_merge, hasNode_merge, Bool.or_comm]
  · intro path
    rw [wholeAt_merge, wholeAt_merge, Bool.or_comm]
  · intro path
    rw [methodsAt_merge, methodsAt_merge, OrderedSet.union_comm]

/-- Merging a usage with itself changes nothing. -/
lemma merge_self (u : Usage) : u.merge u = u := by
  apply ext_at
  · intro path
    rw [hasNode_merge, Bool.or_self]
  · intro path
    rw [wholeAt_merge, Bool.or_self]
  · intro path
    rw [methodsAt_merge, OrderedSet.union_self]

/-- The empty usage adds nothing from the left. -/
@[simp] lemma empty_merge (u : Usage) : merge ∅ u = u := by
  rw [merge_comm, merge_empty]

/-! ## Lists of usages -/

/-- A list without usages merges to the empty one. -/
@[simp] lemma mergeAll_nil : mergeAll [] = ∅ := rfl

/-- The first usage of a list is merged with the merge of the rest. -/
@[simp] lemma mergeAll_cons (u : Usage) (us : List Usage) :
    mergeAll (u :: us) = u.merge (mergeAll us) := rfl

/-- A list of usages has a direct field if one of them has it. -/
@[simp] lemma hasField_mergeAll (us : List Usage) (name : String) :
    (mergeAll us).hasField name = us.any (·.hasField name) := by
  induction us with
  | nil => rfl
  | cons u us ih => simp [ih]

/-- The usage of a direct field in a list is the merge of its usages. -/
lemma sub_mergeAll (us : List Usage) (name : String) :
    (mergeAll us).sub name = mergeAll (us.map (·.sub name)) := by
  induction us with
  | nil => rfl
  | cons u us ih => rw [mergeAll_cons, sub_merge, ih, List.map_cons, mergeAll_cons]

/-- A list of usages consumes the value as a unit if one of them does. -/
@[simp] lemma isWhole_mergeAll (us : List Usage) : (mergeAll us).isWhole = us.any (·.isWhole) := by
  induction us with
  | nil => rfl
  | cons u us ih => simp [ih]

/-- The methods of a list of usages are those of its members. -/
@[simp] lemma mem_methods_mergeAll {us : List Usage} {method : String} :
    method ∈ (mergeAll us).methods ↔ ∃ u ∈ us, method ∈ u.methods := by
  induction us with
  | nil => simp
  | cons u us ih => simp [ih]

/-- A list of usages has a node below the value if one of them has it. -/
lemma hasNode_mergeAll (us : List Usage) (name : String) (path : Path) :
    (mergeAll us).hasNode (name :: path) = us.any (·.hasNode (name :: path)) := by
  induction us with
  | nil => rfl
  | cons u us ih => rw [mergeAll_cons, hasNode_merge, ih, List.any_cons]

/-- A list of usages consumes a value as a unit if one of them does. -/
lemma wholeAt_mergeAll {us : List Usage} {path : Path} :
    (mergeAll us).wholeAt path = true ↔ ∃ u ∈ us, u.wholeAt path = true := by
  induction us with
  | nil => simp
  | cons u us ih => simp [wholeAt_merge, ih]

/-- The methods that a list of usages calls on a value are those of its members. -/
lemma mem_methodsAt_mergeAll {us : List Usage} {path : Path} {method : String} :
    method ∈ (mergeAll us).methodsAt path ↔ ∃ u ∈ us, method ∈ u.methodsAt path := by
  induction us with
  | nil => simp
  | cons u us ih => simp [methodsAt_merge, ih]

/-- Merging a list depends only on the usages in it, not on their order or number. -/
lemma mergeAll_congr {us vs : List Usage} (h : ∀ u, u ∈ us ↔ u ∈ vs) :
    mergeAll us = mergeAll vs := by
  apply ext_at
  · intro path
    cases path with
    | nil => rfl
    | cons name path =>
      rw [hasNode_mergeAll, hasNode_mergeAll, Bool.eq_iff_iff, List.any_eq_true, List.any_eq_true]
      simp only [h]
  · intro path
    rw [Bool.eq_iff_iff, wholeAt_mergeAll, wholeAt_mergeAll]
    simp only [h]
  · intro path
    apply OrderedSet.ext_mem
    intro method
    rw [mem_methodsAt_mergeAll, mem_methodsAt_mergeAll]
    simp only [h]

/-- Merging the usages that the members of a list give, one after the other. -/
lemma foldl_elim_merge {α : Type} (f : α → Option Usage) (l : List α) (u : Usage) :
    l.foldl (fun u a => (f a).elim u u.merge) u = u.merge (mergeAll (l.filterMap f)) := by
  induction l generalizing u with
  | nil => exact (merge_empty u).symm
  | cons a l ih =>
    rw [List.foldl_cons, ih, List.filterMap_cons]
    cases f a with
    | none => rfl
    | some v => rw [Option.elim_some, merge_assoc, ← mergeAll_cons]

/-! ## A usage below a path -/

/-- Putting in a direct field leaves the mark of the value itself. -/
@[simp] lemma isWhole_setField (u : Usage) (name : String) (child : Usage) :
    (u.setField name child).isWhole = u.isWhole := rfl

/-- Putting in a direct field leaves the methods of the value itself. -/
@[simp] lemma methods_setField (u : Usage) (name : String) (child : Usage) :
    (u.setField name child).methods = u.methods := rfl

/-- A direct field that is put in is found, and the others are as before. -/
lemma field?_setField (u : Usage) (name key : String) (child : Usage) :
    (u.setField name child).field? key = if name = key then some child else u.field? key := by
  apply Option.map_injective node_injective
  rw [map_node_field?, apply_ite (Option.map node), map_node_field?]
  exact Entries.find?_put key name child.node u.node.children

/-- The direct fields after one is put in. -/
@[simp] lemma hasField_setField (u : Usage) (name key : String) (child : Usage) :
    (u.setField name child).hasField key = (decide (name = key) || u.hasField key) := by
  rw [hasField, field?_setField, hasField]
  by_cases h : name = key <;> simp [h]

/-- The usages of the direct fields after one is put in. -/
@[simp] lemma sub_setField (u : Usage) (name key : String) (child : Usage) :
    (u.setField name child).sub key = if name = key then child else u.sub key := by
  rw [sub, field?_setField, sub]
  by_cases h : name = key <;> simp [h]

/-- A usage of the value itself needs no moving. -/
@[simp] lemma below_nil (v : Usage) : below [] v = v := empty_merge v

/-- A usage below a path is put in below the rest of the path. -/
lemma below_cons (name : String) (path : Path) (v : Usage) :
    below (name :: path) v = setField ∅ name (below path v) := rfl

/-- The only direct field of a usage below a path is the first name of the path. -/
@[simp] lemma hasField_below_cons (field name : String) (path : Path) (u : Usage) :
    (below (field :: path) u).hasField name = (field == name) := by
  rw [below_cons, hasField_setField, hasField_empty, Bool.or_false]
  rfl

/-- The usage of the first name of a path is what is below the rest of it. -/
lemma sub_below_cons (field name : String) (path : Path) (u : Usage) :
    (below (field :: path) u).sub name = if field = name then below path u else ∅ := by
  rw [below_cons, sub_setField, sub_empty]

/-- Nothing below a field consumes the value itself. -/
@[simp] lemma isWhole_below_cons (field : String) (path : Path) (u : Usage) :
    (below (field :: path) u).isWhole = false := rfl

/-- No method is called on the value itself by what is below a field. -/
@[simp] lemma methods_below_cons (field : String) (path : Path) (u : Usage) :
    (below (field :: path) u).methods = ∅ := rfl

/-- Nothing below a field is a call on the value itself. -/
lemma not_mem_methods_below_cons (method field : String) (path : Path) (u : Usage) :
    method ∉ (below (field :: path) u).methods :=
  OrderedSet.not_mem_empty method

/-- The nodes of a usage below a path that starts with a field are below that field. -/
lemma hasNode_below_cons (name next : String) (path q : Path) (v : Usage) :
    (below (name :: path) v).hasNode (next :: q) =
      (decide (next = name) && (below path v).hasNode q) := by
  rw [hasNode_cons, hasField_below_cons, sub_below_cons]
  by_cases h : name = next
  · simp [h]
  · simp [h, Ne.symm h]

/-- The units of a usage below a path that starts with a field are below that field. -/
lemma wholeAt_below_cons (name next : String) (path q : Path) (v : Usage) :
    (below (name :: path) v).wholeAt (next :: q) =
      (decide (next = name) && (below path v).wholeAt q) := by
  rw [wholeAt_cons, sub_below_cons]
  by_cases h : name = next
  · simp [h]
  · simp [h, Ne.symm h]

/-- The methods of a usage below a path that starts with a field are called below that field. -/
lemma methodsAt_below_cons (name next : String) (path q : Path) (v : Usage) :
    (below (name :: path) v).methodsAt (next :: q) =
      if next = name then (below path v).methodsAt q else ∅ := by
  rw [methodsAt_cons, sub_below_cons]
  by_cases h : name = next
  · simp [h]
  · simp [h, Ne.symm h]

/-! ## The mark of the value itself -/

/-- The usage without the record that the value itself is consumed as a unit. -/
def unmarked (u : Usage) : Usage :=
  ⟨.mk u.node.children u.methods false, .mk u.ordered.sorted u.ordered.children⟩

/-- The usages of the direct fields are the same without the mark of the value itself. -/
@[simp] lemma field?_unmarked (u : Usage) (name : String) :
    u.unmarked.field? name = u.field? name := rfl

/-! ## Flat usages -/

/-- Every one of these direct fields is consumed as a unit, and nothing else is recorded. -/
def flat (names : List String) : Usage := mergeAll (names.map fun name => below [name] unit)

/-- A flat usage has the fields that it names. -/
lemma hasField_flat {names : List String} {name : String} :
    (flat names).hasField name = true ↔ name ∈ names := by
  simp [flat, List.any_map]

/-- A flat usage calls no method. -/
lemma not_mem_methods_flat (names : List String) (method : String) :
    method ∉ (flat names).methods := by
  simp [flat]

/-- Every direct field of a flat usage is consumed as a unit. -/
lemma isWhole_sub_flat {names : List String} {name : String} (hn : name ∈ names) :
    ((flat names).sub name).isWhole = true := by
  rw [flat, sub_mergeAll, isWhole_mergeAll, List.map_map, List.any_map, List.any_eq_true]
  exact ⟨name, hn, by simp [sub_below_cons]⟩

end Usage

namespace VariableUsage

/-- The merge of a list of usages. -/
def mergeAll (us : List VariableUsage) : VariableUsage := us.foldr merge ∅

/-- Merging is associative. -/
lemma merge_assoc (u v w : VariableUsage) : (u.merge v).merge w = u.merge (v.merge w) := by
  simp only [merge, OrderedSet.union_assoc, Usage.merge_assoc]

/-- The empty usage adds nothing from the left. -/
@[simp] lemma empty_merge (u : VariableUsage) : merge ∅ u = u := by
  change VariableUsage.mk (∅ ∪ u.fields) (∅ ∪ u.methods) (∅ ∪ u.ignored) (Usage.merge ∅ u.tree) = u
  simp

/-- The empty usage adds nothing from the right. -/
@[simp] lemma merge_empty (u : VariableUsage) : merge u ∅ = u := by
  change VariableUsage.mk (u.fields ∪ ∅) (u.methods ∪ ∅) (u.ignored ∪ ∅) (Usage.merge u.tree ∅) = u
  simp

/-- A list without usages merges to the empty one. -/
@[simp] lemma mergeAll_nil : mergeAll [] = ∅ := rfl

/-- The first usage of a list is merged with the merge of the rest. -/
@[simp] lemma mergeAll_cons (u : VariableUsage) (us : List VariableUsage) :
    mergeAll (u :: us) = u.merge (mergeAll us) := rfl

/-- Merging a list is merging its parts. -/
@[simp] lemma mergeAll_append (us vs : List VariableUsage) :
    mergeAll (us ++ vs) = (mergeAll us).merge (mergeAll vs) := by
  induction us with
  | nil => simp
  | cons u us ih => rw [List.cons_append, mergeAll_cons, mergeAll_cons, ih, merge_assoc]

/-- Merging the lists that the elements of a list give is merging what each of them merges to. -/
lemma mergeAll_flatMap {α : Type} (f : α → List VariableUsage) (l : List α) :
    mergeAll (l.flatMap f) = mergeAll (l.map fun a => mergeAll (f a)) := by
  induction l with
  | nil => rfl
  | cons a l ih => simp [ih]

/-- Merging the members of a list into a usage one after the other. -/
lemma foldl_merge {α : Type} (f : α → VariableUsage) (l : List α) (u : VariableUsage) :
    l.foldl (fun u a => u.merge (f a)) u = u.merge (mergeAll (l.map f)) := by
  induction l generalizing u with
  | nil => exact (merge_empty u).symm
  | cons a l ih => rw [List.foldl_cons, ih, List.map_cons, mergeAll_cons, merge_assoc]

end VariableUsage

end FieldAudit
