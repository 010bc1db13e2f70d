import Mathlib
import FieldAudit.Proofs.Collection

/-!
# Which bodies count as delegating

A body from a sequence to a sequence is not looked into if it ranges over the source with a variable
for the elements and stores the result of a call somewhere. The statement is told in terms of the
syntax, without the order in which a body is searched. The element itself is not part of it: a body
that ignores its elements and stores what some other call returns counts as delegating, too.
-/

namespace FieldAudit

namespace Expr

/-- The expression inside parentheses, `&` and `*` stands in the expression. -/
lemma contains_core (e : Expr) : (Node.expr e).Contains (.expr e.core) := by
  induction e using core.induct with
  | case1 inner ih => exact .part List.mem_cons_self ih
  | case2 op operand hop ih =>
    rw [core, if_pos hop]
    exact .part List.mem_cons_self ih
  | case3 op operand hop =>
    rw [core, if_neg hop]
    exact .refl _
  | case4 e h1 h2 =>
    rw [core]
    · exact .refl _
    · exact h1
    · exact h2

/-- The test for a call looks through parentheses, `&` and `*`. -/
lemma isCall_iff {e : Expr} : e.isCall = true ↔ ∃ callee args, e.core = .call callee args := by
  unfold isCall
  split
  · rename_i callee args h
    exact ⟨fun _ => ⟨callee, args, h⟩, fun _ => rfl⟩
  · rename_i h
    constructor
    · intro hf
      cases hf
    · rintro ⟨callee, args, e⟩
      exact absurd e (h callee args)

/-- The expressions with a name of their own are the identifiers. -/
lemma ident?_eq_some {e : Expr} {name : String} : e.ident? = some name ↔ e = .ident name := by
  constructor
  · intro h
    cases e with
    | ident n => exact congrArg ident (Option.some.inj h)
    | _ => cases h
  · rintro rfl
    rfl

/-- Calls and variables bound to calls are forwarded. -/
lemma forwards_iff {bound : List String} {e : Expr} :
    e.forwards bound = true ↔
      (∃ callee args, e.core = .call callee args) ∨ ∃ name ∈ bound, e.core = .ident name := by
  simp only [forwards, Bool.or_eq_true, isCall_iff, Option.any_eq_true, ident?_eq_some,
    List.contains_iff_mem]
  refine or_congr_right ⟨?_, ?_⟩
  · rintro ⟨name, h, hb⟩
    exact ⟨name, hb, h⟩
  · rintro ⟨name, hb, h⟩
    exact ⟨name, h, hb⟩

end Expr

/-! ## Ranges over the source -/

/-- Some range over a variable, in parentheses or not, gives its elements this name. -/
def Block.Ranges (body : Block) (var element : String) : Prop :=
  element ≠ "_" ∧ ∃ key define subject inner,
    Block.Contains body (.stmt (.range key (some (.ident element)) define subject inner)) ∧
      subject.unparen = .ident var

/-- A statement gives a variable for the elements exactly if it is a loop over the variable that names
    its elements. -/
lemma Stmt.rangeElement?_eq_some {s : Stmt} {var element : String} :
    s.rangeElement? var = some element ↔ element ≠ "_" ∧ ∃ key define subject inner,
      s = .range key (some (.ident element)) define subject inner ∧
        subject.unparen = .ident var := by
  constructor
  · intro h
    unfold Stmt.rangeElement? at h
    split at h
    · rename_i key value define subject inner
      split at h
      · rename_i hs
        obtain ⟨hv, hne⟩ := Option.filter_eq_some_iff.1 h
        obtain rfl := Expr.ident?_eq_some.1 hv
        exact ⟨by simpa using hne, key, define, subject, inner, rfl, Expr.ident?_eq_some.1 hs⟩
      · cases h
    · cases h
  · rintro ⟨hne, key, define, subject, inner, rfl, hs⟩
    simp [Stmt.rangeElement?, hs, Expr.ident?, hne]

/-- A body gives a variable for the elements exactly if some loop in it does. -/
lemma Block.isSome_rangeElement? {body : Block} {var : String} :
    (Block.rangeElement? body var).isSome = true ↔ ∃ element, Block.Ranges body var element := by
  rw [Block.rangeElement?_eq, List.findSome?_isSome_iff]
  simp only [Option.isSome_iff_exists, Block.mem_statements, Stmt.rangeElement?_eq_some]
  constructor
  · rintro ⟨s, hs, element, hne, key, define, subject, inner, rfl, h⟩
    exact ⟨element, hne, key, define, subject, inner, hs, h⟩
  · rintro ⟨element, hne, key, define, subject, inner, hs, h⟩
    exact ⟨_, hs, element, hne, key, define, subject, inner, rfl, h⟩

/-! ## Results of calls that are stored -/

/-- A statement binds a name to the result of a call, alone or with other names. -/
inductive Stmt.Binds : Stmt → String → Expr → Prop where
  | assign {targets : List Expr} {op : AssignOp} {value call : Expr} {name : String} :
    .ident name ∈ targets →
    value.core = call →
    Binds (.assign targets op [value]) name call
  | var {names : List String} {type : Option TypeExpr} {value call : Expr} {name : String} :
    name ∈ names →
    value.core = call →
    Binds (.var names type [value]) name call

/-- Some call of `append` in the body adds this value. -/
def Block.Appends (body : Block) (value : Expr) : Prop :=
  ∃ first elements,
    Block.Contains body (.expr (.call (.ident "append") (first :: elements))) ∧ value ∈ elements

/-- The body stores the result of a call: it appends it, puts it at an index, or appends a name that
    it binds to it. -/
inductive Block.Stores (body : Block) (call : Expr) : Prop where
  | appended {value : Expr} :
    Block.Appends body value →
    value.core = call →
    Stores body call
  | placed {base value : Expr} {operands targets values : List Expr} {op : AssignOp} :
    Block.Contains body (.stmt (.assign (.index base operands :: targets) op (value :: values))) →
    value.core = call →
    Stores body call
  | bound {s : Stmt} {name : String} {value : Expr} :
    Block.Contains body (.stmt s) →
    s.Binds name call →
    Block.Appends body value →
    value.core = .ident name →
    Stores body call

/-- A name is bound to a call by a statement that gives it a call. -/
lemma Stmt.mem_callBound {s : Stmt} {name : String} :
    name ∈ s.callBound ↔ ∃ callee args, s.Binds name (.call callee args) := by
  constructor
  · intro h
    unfold Stmt.callBound at h
    split at h
    · split at h
      · rename_i hc
        obtain ⟨callee, args, e⟩ := Expr.isCall_iff.1 hc
        obtain ⟨target, ht, hn⟩ := List.mem_filterMap.1 h
        obtain rfl := Expr.ident?_eq_some.1 hn
        exact ⟨callee, args, .assign ht e⟩
      · cases h
    · split at h
      · rename_i hc
        obtain ⟨callee, args, e⟩ := Expr.isCall_iff.1 hc
        exact ⟨callee, args, .var h e⟩
      · cases h
    · cases h
  · rintro ⟨callee, args, h⟩
    cases h with
    | @assign targets op value _ _ ht e =>
      have hc : value.isCall = true := Expr.isCall_iff.2 ⟨callee, args, e⟩
      rw [Stmt.callBound, if_pos hc]
      exact List.mem_filterMap.2 ⟨_, ht, rfl⟩
    | @var names type value _ _ hn e =>
      have hc : value.isCall = true := Expr.isCall_iff.2 ⟨callee, args, e⟩
      rw [Stmt.callBound, if_pos hc]
      exact hn

/-- A name is bound to a call in a body if some statement in it does so. -/
lemma Block.mem_callBound {body : Block} {name : String} :
    name ∈ Block.callBound body ↔
      ∃ s callee args, Block.Contains body (.stmt s) ∧ s.Binds name (.call callee args) := by
  simp only [Block.callBound_eq, List.mem_flatMap, Block.mem_statements, Stmt.mem_callBound]
  constructor
  · rintro ⟨s, hs, callee, args, h⟩
    exact ⟨s, callee, args, hs, h⟩
  · rintro ⟨s, callee, args, hs, h⟩
    exact ⟨s, hs, callee, args, h⟩

/-- The two forms of a node that stores a result. -/
lemma Node.storesCall_iff {bound : List String} {n : Node} :
    n.storesCall bound = true ↔
      (∃ first elements, n = .expr (.call (.ident "append") (first :: elements)) ∧
        ∃ value ∈ elements, value.forwards bound = true) ∨
      ∃ base operands targets op value values,
        n = .stmt (.assign (.index base operands :: targets) op (value :: values)) ∧
          value.isCall = true := by
  constructor
  · intro h
    unfold Node.storesCall at h
    split at h
    · rename_i first elements
      exact .inl ⟨first, elements, rfl, List.any_eq_true.1 h⟩
    · rename_i base operands targets op value values
      exact .inr ⟨base, operands, targets, op, value, values, rfl, h⟩
    · cases h
  · rintro (⟨first, elements, rfl, h⟩ | ⟨base, operands, targets, op, value, values, rfl, h⟩)
    · exact List.any_eq_true.2 h
    · exact h

/-- A body has a node that stores a result exactly if it stores the result of some call. -/
lemma Block.storesCall_iff {body : Block} :
    Block.storesCall body = true ↔ ∃ callee args, Block.Stores body (.call callee args) := by
  have hvisit : Block.storesCall body = true ↔
      ∃ n, Block.Contains body n ∧ n.storesCall (Block.callBound body) = true := by
    simp only [Block.storesCall_eq, List.any_eq_true, Block.contains_iff_visit]
    constructor
    · rintro ⟨v, hv, h⟩
      exact ⟨v.node, ⟨v, hv, rfl⟩, h⟩
    · rintro ⟨_, ⟨v, hv, rfl⟩, h⟩
      exact ⟨v, hv, h⟩
  rw [hvisit]
  constructor
  · rintro ⟨n, hn, h⟩
    rcases Node.storesCall_iff.1 h with ⟨first, elements, rfl, value, hv, hf⟩ |
      ⟨base, operands, targets, op, value, values, rfl, hc⟩
    · have ha : Block.Appends body value := ⟨first, elements, hn, hv⟩
      rcases Expr.forwards_iff.1 hf with ⟨callee, args, e⟩ | ⟨name, hb, e⟩
      · exact ⟨callee, args, .appended ha e⟩
      · obtain ⟨s, callee, args, hs, hb⟩ := Block.mem_callBound.1 hb
        exact ⟨callee, args, .bound hs hb ha e⟩
    · obtain ⟨callee, args, e⟩ := Expr.isCall_iff.1 hc
      exact ⟨callee, args, .placed hn e⟩
  · rintro ⟨callee, args, h⟩
    cases h with
    | appended ha e =>
      obtain ⟨first, elements, hn, hv⟩ := ha
      refine ⟨_, hn, Node.storesCall_iff.2 (.inl ⟨first, elements, rfl, _, hv, ?_⟩)⟩
      exact Expr.forwards_iff.2 (.inl ⟨callee, args, e⟩)
    | placed hn e =>
      exact ⟨_, hn, Node.storesCall_iff.2
        (.inr ⟨_, _, _, _, _, _, rfl, Expr.isCall_iff.2 ⟨callee, args, e⟩⟩)⟩
    | bound hs hb ha e =>
      obtain ⟨first, elements, hn, hv⟩ := ha
      refine ⟨_, hn, Node.storesCall_iff.2 (.inl ⟨first, elements, rfl, _, hv, ?_⟩)⟩
      exact Expr.forwards_iff.2 (.inr ⟨_, Block.mem_callBound.2 ⟨_, callee, args, hs, hb⟩, e⟩)

/-- A body is delegating exactly if it goes from a sequence to a sequence, ranges over the source with
    a variable for the elements, and stores the result of some call, whatever that call is given. -/
theorem isDelegating_iff {body : Block} {source dest : Shape} {var : String} :
    Block.isDelegating body source dest var = true ↔
      source = .sequence ∧ dest = .sequence ∧ (∃ element, Block.Ranges body var element) ∧
        ∃ callee args, Block.Stores body (.call callee args) := by
  rw [Block.isDelegating, Block.forwardsElements, Bool.and_eq_true, Bool.and_eq_true,
    Bool.and_eq_true, beq_iff_eq, beq_iff_eq, Block.isSome_rangeElement?, Block.storesCall_iff,
    and_assoc]

/-! ## Elements that are handed over -/

/-- A statement sets a name from a value: by an assignment or in a declaration, alone or with other
    names. -/
inductive Stmt.Sets : Stmt → String → Expr → Prop where
  | assign {targets values : List Expr} {op : AssignOp} {value : Expr} {name : String} :
    .ident name ∈ targets →
    value ∈ values →
    Sets (.assign targets op values) name value
  | var {names : List String} {type : Option TypeExpr} {values : List Expr} {value : Expr}
      {name : String} :
    name ∈ names →
    value ∈ values →
    Sets (.var names type values) name value

/-- The element occurs in an expression, by its own name or by one that is set from a value in which it
    occurs. -/
def Block.Passes (body : Block) (element : String) (e : Expr) : Prop :=
  ∃ name, (Node.expr e).Contains (.expr (.ident name)) ∧
    (name = element ∨ ∃ s value, Block.Contains body (.stmt s) ∧ s.Sets name value ∧
      (Node.expr value).Contains (.expr (.ident element)))

/-- The names in an expression, once for each place. -/
def Expr.names (e : Expr) : List String :=
  ((Node.expr e).visits []).filterMap (·.node.expr?.bind Expr.ident?)

/-- The names of an expression are the identifiers in it. -/
lemma Expr.mem_names {e : Expr} {name : String} :
    name ∈ e.names ↔ (Node.expr e).Contains (.expr (.ident name)) := by
  rw [Expr.names, List.mem_filterMap]
  constructor
  · rintro ⟨⟨n, frames⟩, hv, h⟩
    cases n with
    | stmt s => cases h
    | expr e =>
      obtain rfl := Expr.ident?_eq_some.1 h
      exact .of_visit hv
  · intro h
    obtain ⟨v, hv, hn⟩ := h.visit []
    refine ⟨v, hv, ?_⟩
    rw [hn]
    rfl

/-- Whether a node is not one by which the element is handed on: a call, an assignment or a declaration
    with the element in what is called, given or assigned. -/
def Node.keepsOut (element : String) : Node → Bool
  | .expr (.call callee args) => !(Expr.call callee args).names.contains element
  | .stmt (.assign _ _ values) => values.all (!·.names.contains element)
  | .stmt (.var _ _ values) => values.all (!·.names.contains element)
  | _ => true

/-- A body that keeps a variable out of its calls passes it to none. -/
lemma Block.not_passes {body : Block} {element : String} {callee : Expr} {args : List Expr}
    (h : (Block.visits body).all (·.node.keepsOut element) = true)
    (hc : Block.Contains body (.expr (.call callee args))) :
    ¬ Block.Passes body element (.call callee args) := by
  have hk : ∀ n, Block.Contains body n → n.keepsOut element = true := by
    intro n hn
    obtain ⟨v, hv, rfl⟩ := Block.contains_iff_visit.1 hn
    exact List.all_eq_true.1 h v hv
  rintro ⟨name, hn, rfl | ⟨s, value, hs, hset, hv⟩⟩
  · have := hk _ hc
    simp [Node.keepsOut, Expr.mem_names.2 hn] at this
  · have hno := hk _ hs
    cases hset with
    | assign _ hm =>
      have := List.all_eq_true.1 hno value hm
      simp [Expr.mem_names.2 hv] at this
    | var _ hm =>
      have := List.all_eq_true.1 hno value hm
      simp [Expr.mem_names.2 hv] at this

/-- A call whose result is stored stands in the body. -/
lemma Block.Stores.contains {body : Block} {call : Expr} (h : Block.Stores body call) :
    Block.Contains body (.expr call) := by
  -- in each case a value around the call stands in the body
  suffices hv : ∃ value, Block.Contains body (.expr value) ∧ value.core = call by
    obtain ⟨value, hc, rfl⟩ := hv
    exact hc.trans value.contains_core
  cases h with
  | @appended value ha e =>
    obtain ⟨first, elements, hn, hv⟩ := ha
    exact ⟨value, hn.trans (Node.contains_argument (List.mem_cons_of_mem first hv)), e⟩
  | placed hn e => exact ⟨_, hn.trans (Node.contains_assigned List.mem_cons_self), e⟩
  | bound hs hb _ _ =>
    cases hb with
    | assign _ e => exact ⟨_, hs.trans (Node.contains_assigned List.mem_cons_self), e⟩
    | var _ e => exact ⟨_, hs.trans (Node.contains_declared List.mem_cons_self), e⟩

namespace Sample

/-- A body that appends the result of the same call for every element:

        for _, u := range in {
            out = append(out, blank())
        }
        return out
-/
def ignoring : Block :=
  [.range (some (.ident "_")) (some (.ident "u")) true (.ident "in")
    [.assign [.ident "out"] .assign
      [.call (.ident "append") [.ident "out", .call (.ident "blank") []]]],
   .ret [.ident "out"]]

end Sample

/-- A body that ignores its elements is delegating, though no call whose result it stores is given
    one. -/
theorem isDelegating_ignoring :
    Block.isDelegating Sample.ignoring .sequence .sequence "in" = true ∧
      Block.rangeElement? Sample.ignoring "in" = some "u" ∧
      ∀ callee args, Block.Stores Sample.ignoring (.call callee args) →
        ¬ Block.Passes Sample.ignoring "u" (.call callee args) := by
  refine ⟨by decide +kernel, by decide +kernel, ?_⟩
  intro callee args h
  exact Block.not_passes (by decide +kernel) h.contains

end FieldAudit
