import FieldAudit.Entries

/-!
# Nodes of a usage tree

What is done with a value and the fields below it: a node for the value, and below it a node for
every field that is used, by name. The names are kept in increasing order at every node, so that
trees with the same nodes are equal.
-/

namespace FieldAudit

/-- What is done with the value at one field path. -/
inductive UsageNode where
  | mk (children : List (String × UsageNode)) (methods : NameSet) (whole : Bool)

namespace UsageNode

/-- The fields used below the path. -/
def children : UsageNode → List (String × UsageNode)
  | mk children _ _ => children

/-- The methods called on the value. -/
def methods : UsageNode → NameSet
  | mk _ methods _ => methods

/-- The value is consumed as a unit, so that its fields need no checking. -/
def whole : UsageNode → Bool
  | mk _ _ whole => whole

instance : EmptyCollection UsageNode := ⟨mk [] ∅ false⟩

/-- The node of a direct field. -/
def child? (node : UsageNode) (name : String) : Option UsageNode := Entries.find? name node.children

/-- The node with another one in the place of a direct field. -/
def setChild (node : UsageNode) (name : String) (child : UsageNode) : UsageNode :=
  mk (Entries.put name child node.children) node.methods node.whole

mutual

/-- The union of two nodes: each child of the second is merged into the child of its name in the
    first, which is created where it is not there. -/
def merge (node : UsageNode) : UsageNode → UsageNode
  | mk children methods whole =>
    mk (mergeChildren node.children children) (node.methods ∪ methods) (node.whole || whole)

/-- Merges children into those of a node, one after the other. -/
def mergeChildren (own : List (String × UsageNode)) :
    List (String × UsageNode) → List (String × UsageNode)
  | [] => own
  | (name, child) :: rest =>
    mergeChildren (Entries.put name (merge ((Entries.find? name own).getD ∅) child) own) rest

end

mutual

/-- The length of the longest path from the node downwards. -/
def depth : UsageNode → Nat
  | mk children _ _ => childrenDepth children

/-- The length of the longest path that starts with one of these children. -/
def childrenDepth : List (String × UsageNode) → Nat
  | [] => 0
  | (_, child) :: rest => max (depth child + 1) (childrenDepth rest)

end

/-- What holds of a node if it holds of all its children holds of every node. -/
@[elab_as_elim]
theorem induct {P : UsageNode → Prop}
    (step : ∀ children methods whole, (∀ entry ∈ children, P entry.2) → P (mk children methods whole))
    (node : UsageNode) : P node := by
  refine @UsageNode.rec P (fun children => ∀ entry ∈ children, P entry.2) (fun entry => P entry.2)
    step ?_ ?_ ?_ node
  · intro entry he
    exact absurd he List.not_mem_nil
  · intro first rest hfirst hrest entry he
    rcases List.mem_cons.1 he with rfl | he
    · exact hfirst
    · exact hrest entry he
  · intro name child h
    exact h

/-- The names of the children are increasing at the node and at all nodes below it. -/
inductive Ordered : UsageNode → Prop
  | mk {children : List (String × UsageNode)} {methods : NameSet} {whole : Bool}
      (sorted : Entries.Sorted children) (below : ∀ entry ∈ children, Ordered entry.2) :
      Ordered (.mk children methods whole)

namespace Ordered

variable {node other child : UsageNode} {name : String}

/-- A node without children is ordered. -/
theorem leaf (methods : NameSet) (whole : Bool) : Ordered (.mk [] methods whole) :=
  .mk .nil fun _ he => absurd he List.not_mem_nil

/-- The children of an ordered node are sorted by their names. -/
theorem sorted (h : node.Ordered) : Entries.Sorted node.children := by
  cases h with
  | mk sorted _ => exact sorted

/-- The children of an ordered node are ordered. -/
theorem children (h : node.Ordered) : ∀ entry ∈ node.children, entry.2.Ordered := by
  cases h with
  | mk _ below => exact below

/-- The nodes below an ordered one are ordered. -/
theorem child? (h : node.Ordered) (hc : node.child? name = some child) : child.Ordered :=
  h.children _ (Entries.mem_of_find? hc)

/-- Another child keeps a node ordered. -/
theorem setChild (h : node.Ordered) (name : String) (hc : child.Ordered) :
    (node.setChild name child).Ordered := by
  refine .mk (h.sorted.put name child) fun entry he => ?_
  rcases Entries.mem_put he with rfl | he
  · exact hc
  · exact h.children entry he

/-- Merging children one after the other keeps them sorted and ordered, if each merge gives an ordered
    node. -/
theorem mergeChildren {children own : List (String × UsageNode)}
    (step : ∀ entry ∈ children, ∀ node : UsageNode, node.Ordered → (node.merge entry.2).Ordered)
    (hs : Entries.Sorted own) (ho : ∀ entry ∈ own, entry.2.Ordered) :
    Entries.Sorted (mergeChildren own children) ∧
      ∀ entry ∈ mergeChildren own children, entry.2.Ordered := by
  induction children generalizing own with
  | nil =>
    rw [UsageNode.mergeChildren]
    exact ⟨hs, ho⟩
  | cons first rest ih =>
    obtain ⟨name, child⟩ := first
    rw [UsageNode.mergeChildren]
    have present : ((Entries.find? name own).getD ∅).Ordered := by
      cases hf : Entries.find? name own with
      | none => exact leaf ∅ false
      | some node => exact ho _ (Entries.mem_of_find? hf)
    have merged := step _ List.mem_cons_self _ present
    refine ih (fun entry he => step entry (List.mem_cons_of_mem _ he)) (hs.put name _) ?_
    intro entry he
    rcases Entries.mem_put he with rfl | he
    · exact merged
    · exact ho entry he

/-- Merging ordered nodes gives an ordered node. -/
theorem merge (h : node.Ordered) (h' : other.Ordered) : (node.merge other).Ordered := by
  induction other using UsageNode.induct generalizing node with
  | step children methods whole ih =>
    obtain ⟨hs, ho⟩ := mergeChildren (fun entry he node hn => ih entry he hn (h'.children entry he))
      h.sorted h.children
    exact .mk hs ho

end Ordered

/-- The path through a child is shorter than the longest one. -/
theorem depth_lt_of_mem {children : List (String × UsageNode)} {entry : String × UsageNode}
    (h : entry ∈ children) : entry.2.depth < childrenDepth children := by
  induction children with
  | nil => cases h
  | cons first rest ih =>
    rw [childrenDepth]
    rcases List.mem_cons.1 h with rfl | h
    · omega
    · have := ih h
      omega

/-- Going down to a child shortens the paths. -/
theorem depth_child?_lt {node child : UsageNode} {name : String}
    (h : node.child? name = some child) : child.depth < node.depth := by
  cases node
  rw [depth]
  exact depth_lt_of_mem (Entries.mem_of_find? h)

end UsageNode

end FieldAudit
