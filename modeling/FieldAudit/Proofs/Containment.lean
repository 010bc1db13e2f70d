import Mathlib
import FieldAudit.Proofs.Walks

/-!
# Nodes inside nodes

When a statement or an expression stands in a body, at any depth and inside closures as well. The
relation is read off the direct parts of a node alone; the visit of a body meets exactly the nodes
that stand in it (`Block.contains_iff_visit`), so that facts about collectors can be told in terms of
the syntax.
-/

namespace FieldAudit

/-- The second node is the first one or stands somewhere in it. -/
inductive Node.Contains : Node → Node → Prop where
  | refl (n : Node) : Contains n n
  | part {n m child : Node} {role : Role} :
    (role, child) ∈ n.children →
    Contains child m →
    Contains n m

/-- A node stands somewhere in a block. -/
def Block.Contains (body : Block) (m : Node) : Prop := ∃ s ∈ body, (Node.stmt s).Contains m

namespace Node

/-- A direct part stands in its node. -/
lemma Contains.of_child {n child : Node} {role : Role} (hc : (role, child) ∈ n.children) :
    n.Contains child :=
  .part hc (.refl child)

/-- Standing in a node is transitive. -/
lemma Contains.trans {n m k : Node} (h1 : n.Contains m) (h2 : m.Contains k) : n.Contains k := by
  induction h1 with
  | refl => exact h2
  | part hc _ ih => exact .part hc (ih h2)

/-- A call contains its arguments. -/
lemma contains_argument {callee arg : Expr} {args : List Expr} (ha : arg ∈ args) :
    (expr (.call callee args)).Contains (.expr arg) :=
  .of_child (List.mem_cons_of_mem _ (mem_exprParts.2 ⟨arg, ha, rfl⟩))

/-- An assignment contains the values that it assigns. -/
lemma contains_assigned {targets values : List Expr} {op : AssignOp} {value : Expr}
    (hv : value ∈ values) : (stmt (.assign targets op values)).Contains (.expr value) := by
  obtain ⟨i, hi, rfl⟩ := List.getElem_of_mem hv
  have hc : (Role.assigned i, expr values[i]) ∈ (stmt (.assign targets op values)).children :=
    List.mem_append_right _ (List.mem_mapIdx.2 ⟨i, hi, rfl⟩)
  exact .of_child hc

/-- A declaration contains the values that it gives. -/
lemma contains_declared {names : List String} {type : Option TypeExpr} {values : List Expr}
    {value : Expr} (hv : value ∈ values) : (stmt (.var names type values)).Contains (.expr value) :=
  .of_child (mem_exprParts.2 ⟨value, hv, rfl⟩)

/-- An expression holds no statement if none of its parts does. -/
lemma not_contains_stmt {e : Expr} {s : Stmt}
    (h : ∀ p ∈ (expr e).children, ¬ p.2.Contains (.stmt s)) : ¬ (expr e).Contains (.stmt s) := by
  intro hc
  cases hc with
  | part hp hc => exact h _ hp hc

/-- Every visited node stands in the node from which the visit starts. -/
lemma Contains.of_visit {n : Node} {frames : List Frame} {v : Visit} (hv : v ∈ n.visits frames) :
    n.Contains v.node := by
  induction frames, n using visits.induct generalizing v with
  | case1 frames n ih =>
    rw [visits_eq] at hv
    rcases List.mem_cons.1 hv with rfl | hv
    · exact .refl n
    · obtain ⟨⟨role, child⟩, hc, hv⟩ := List.mem_flatMap.1 hv
      exact .part hc (ih role child hc hv)

/-- Every node that stands in a node is visited, whatever frames lie around the start. -/
lemma Contains.visit {n m : Node} (h : n.Contains m) (frames : List Frame) :
    ∃ v ∈ n.visits frames, v.node = m := by
  -- the frames are general, since each step down adds one
  induction h generalizing frames with
  | refl n =>
    rw [visits_eq]
    exact ⟨_, List.mem_cons_self, rfl⟩
  | @part n m child role hc _ ih =>
    obtain ⟨v, hv, e⟩ := ih (⟨n, role⟩ :: frames)
    rw [visits_eq]
    exact ⟨v, List.mem_cons_of_mem _ (List.mem_flatMap.2 ⟨_, hc, hv⟩), e⟩

end Node

namespace Block

/-- A block contains exactly the nodes that its visit meets. -/
lemma contains_iff_visit {body : Block} {m : Node} :
    Block.Contains body m ↔ ∃ v ∈ Block.visits body, v.node = m := by
  constructor
  · rintro ⟨s, hs, h⟩
    obtain ⟨v, hv, e⟩ := h.visit []
    exact ⟨v, List.mem_flatMap.2 ⟨s, hs, hv⟩, e⟩
  · rintro ⟨v, hv, rfl⟩
    obtain ⟨s, hs, hv⟩ := List.mem_flatMap.1 hv
    exact ⟨s, hs, .of_visit hv⟩

/-- A visited node stands in the block. -/
lemma Contains.of_visit {body : Block} {v : Visit} (hv : v ∈ Block.visits body) :
    Block.Contains body v.node :=
  contains_iff_visit.2 ⟨v, hv, rfl⟩

/-- What stands in a node of a block stands in the block. -/
lemma Contains.trans {body : Block} {m k : Node} (h1 : Block.Contains body m)
    (h2 : m.Contains k) : Block.Contains body k := by
  obtain ⟨s, hs, h⟩ := h1
  exact ⟨s, hs, h.trans h2⟩

/-- The statements of a block at any depth are those that stand in it. -/
lemma mem_statements {body : Block} {s : Stmt} :
    s ∈ Block.statements body ↔ Block.Contains body (.stmt s) := by
  rw [contains_iff_visit, Block.statements, List.mem_filterMap]
  constructor
  · rintro ⟨⟨n, frames⟩, hv, e⟩
    cases n with
    | stmt t =>
      cases e
      exact ⟨_, hv, rfl⟩
    | expr _ => cases e
  · rintro ⟨v, hv, e⟩
    exact ⟨v, hv, by rw [e]; rfl⟩

end Block

namespace Node

/-- The name that a selector selects. -/
def selected? : Node → Option String
  | expr (.selector _ field) => some field
  | _ => none

/-- The field names under which the elements of a composite literal stand. -/
def keys : Node → List String
  | expr (.composite _ elements) => elements.filterMap fun
    | .field name _ => some name
    | _ => none
  | _ => []

/-- A node that selects a name is a selector. -/
lemma selected?_eq_some {n : Node} {name : String} :
    n.selected? = some name ↔ ∃ base, n = .expr (.selector base name) := by
  constructor
  · intro h
    unfold selected? at h
    split at h
    · rename_i base field
      obtain rfl := Option.some.inj h
      exact ⟨base, rfl⟩
    · cases h
  · rintro ⟨base, rfl⟩
    rfl

/-- A node with a key is a composite literal with an element under that key. -/
lemma mem_keys {n : Node} {name : String} :
    name ∈ n.keys ↔
      ∃ type elements value, n = .expr (.composite type elements) ∧ .field name value ∈ elements := by
  constructor
  · intro h
    unfold keys at h
    split at h
    · rename_i type elements
      obtain ⟨element, he, e⟩ := List.mem_filterMap.1 h
      cases element with
      | field key value =>
        obtain rfl := Option.some.inj e
        exact ⟨type, elements, value, rfl, he⟩
      | positional value => cases e
      | keyed key value => cases e
    · cases h
  · rintro ⟨type, elements, value, rfl, he⟩
    exact List.mem_filterMap.2 ⟨_, he, rfl⟩

end Node

namespace Block

/-- Some selector of the body, in closures as well, selects this name. -/
def Selects (body : Block) (name : String) : Prop :=
  ∃ base, Block.Contains body (.expr (.selector base name))

/-- Some composite literal of the body has an element under this field name. -/
def Keys (body : Block) (name : String) : Prop :=
  ∃ type elements value,
    Block.Contains body (.expr (.composite type elements)) ∧ .field name value ∈ elements

/-- A name is selected in a body exactly if a walk visits a selector of it. -/
lemma selects_iff_visit {body : Block} {name : String} :
    Block.Selects body name ↔ ∃ v ∈ Block.visits body, v.node.selected? = some name := by
  simp only [Block.Selects, contains_iff_visit, Node.selected?_eq_some]
  constructor
  · rintro ⟨base, v, hv, e⟩
    exact ⟨v, hv, base, e⟩
  · rintro ⟨v, hv, base, e⟩
    exact ⟨base, v, hv, e⟩

/-- A name is a key in a body exactly if a walk visits a literal with it. -/
lemma keys_iff_visit {body : Block} {name : String} :
    Block.Keys body name ↔ ∃ v ∈ Block.visits body, name ∈ v.node.keys := by
  simp only [Block.Keys, contains_iff_visit, Node.mem_keys]
  constructor
  · rintro ⟨type, elements, value, ⟨v, hv, e⟩, he⟩
    exact ⟨v, hv, type, elements, value, e, he⟩
  · rintro ⟨v, hv, type, elements, value, e, he⟩
    exact ⟨type, elements, value, ⟨v, hv, e⟩, he⟩

instance (body : Block) (name : String) : Decidable (Block.Selects body name) :=
  decidable_of_iff _ selects_iff_visit.symm

instance (body : Block) (name : String) : Decidable (Block.Keys body name) :=
  decidable_of_iff _ keys_iff_visit.symm

end Block

end FieldAudit
