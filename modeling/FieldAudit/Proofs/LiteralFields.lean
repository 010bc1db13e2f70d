import Mathlib
import FieldAudit.Proofs.UsageNodes
import FieldAudit.Proofs.UsageSummary

/-!
# What a literal supplies

The usage of a literal has the shape of the literal: a path is in it if one can go down through elements
that stand under its names, where every value on the way is a literal again. What ends such a path is
consumed as a unit unless it is a literal without positional elements. The order of the elements does not
matter, and those under other keys than field names do not count.
-/

namespace FieldAudit

/-- The expression is a literal with these elements, in parentheses or not and behind at most one `&`. -/
def Expr.Builds (e : Expr) (elements : List (Element Expr)) : Prop :=
  ∃ type, e.unaddress = .composite type elements

/-- The value is found at a path below the elements of a literal. -/
inductive Supplies : List (Element Expr) → Path → Expr → Prop where
  | field {elements : List (Element Expr)} {name : String} {value : Expr} :
    .field name value ∈ elements →
    Supplies elements [name] value
  | inside {elements inner : List (Element Expr)} {name : String} {outer value : Expr} {path : Path} :
    .field name outer ∈ elements →
    outer.Builds inner →
    Supplies inner path value →
    Supplies elements (name :: path) value

/-- The value is taken as a unit: it is no literal, or one with a positional element. -/
def Expr.TakenWhole (value : Expr) : Prop :=
  (∀ elements, ¬ value.Builds elements) ∨
    ∃ elements element, value.Builds elements ∧ .positional element ∈ elements

/-- An expression builds at most one list of elements. -/
lemma Expr.Builds.unique {e : Expr} {elements others : List (Element Expr)} (h : e.Builds elements)
    (h' : e.Builds others) : elements = others := by
  obtain ⟨type, he⟩ := h
  obtain ⟨type', he'⟩ := h'
  rw [he] at he'
  exact (Expr.composite.inj he').2

/-- No parentheses are left around an expression that has lost them. -/
lemma Expr.unparen_ne_paren (e inner : Expr) : e.unparen ≠ .paren inner := by
  induction e using Expr.unparen.induct with
  | case1 e ih =>
    rw [Expr.unparen]
    exact ih
  | case2 e h =>
    rw [Expr.unparen]
    · exact h inner
    · exact h

/-- No parentheses are left around an expression whose address was taken away. -/
lemma Expr.unaddress_ne_paren (e inner : Expr) : e.unaddress ≠ .paren inner := by
  unfold Expr.unaddress
  split
  · exact Expr.unparen_ne_paren _ inner
  · exact Expr.unparen_ne_paren e inner

/-- A literal supplies only what is below it. -/
lemma Supplies.ne_nil {elements : List (Element Expr)} {path : Path} {value : Expr}
    (h : Supplies elements path value) : path ≠ [] := by
  cases h with
  | field _ => exact List.cons_ne_nil _ _
  | inside _ _ _ => exact List.cons_ne_nil _ _

namespace Usage

/-! ## Finding the literal -/

/-- Parentheses do not matter to what a literal supplies. -/
lemma ofLiteral?_unparen (address : Bool) (e : Expr) :
    ofLiteral? address e.unparen = ofLiteral? address e := by
  induction e using Expr.unparen.induct with
  | case1 inner ih => rw [Expr.unparen, ofLiteral?, ih]
  | case2 e h =>
    rw [Expr.unparen]
    exact h

/-- What an expression supplies is what the literal below its address supplies. -/
lemma supplied?_eq (e : Expr) : supplied? e = ofLiteral? false e.unaddress := by
  rw [supplied?, ← ofLiteral?_unparen, Expr.unaddress]
  cases hu : e.unparen with
  | paren inner => exact absurd hu (e.unparen_ne_paren inner)
  | unary op operand =>
    by_cases h : op = "&"
    · subst h
      simp only [ofLiteral?, ofLiteral?_unparen, beq_self_eq_true, Bool.and_self, if_true]
    · simp [ofLiteral?, h]
  | _ => rfl

/-- An expression that builds a literal supplies its elements. -/
lemma supplied?_of_builds {e : Expr} {elements : List (Element Expr)} (h : e.Builds elements) :
    supplied? e = some (ofElements elements) := by
  obtain ⟨type, he⟩ := h
  rw [supplied?_eq, he, ofLiteral?]

/-- An expression that builds no literal supplies nothing in parts. -/
lemma supplied?_of_not_builds {e : Expr} (h : ∀ elements, ¬ e.Builds elements) :
    supplied? e = none := by
  rw [supplied?_eq]
  cases he : e.unaddress with
  | composite type elements => exact absurd ⟨type, he⟩ (h elements)
  | paren inner => exact absurd he (e.unaddress_ne_paren inner)
  | unary op operand => rfl
  | _ => simp [ofLiteral?]

/-- A field that is assigned a literal is written as far as the elements say. -/
lemma assignedFrom_of_builds {e : Expr} {elements : List (Element Expr)} (h : e.Builds elements) :
    assignedFrom e = ofElements elements := by
  rw [assignedFrom, supplied?_of_builds h, Option.getD_some]

/-- A field that is assigned anything else is written as a unit. -/
lemma assignedFrom_of_not_builds {e : Expr} (h : ∀ elements, ¬ e.Builds elements) :
    assignedFrom e = unit := by
  rw [assignedFrom, supplied?_of_not_builds h, Option.getD_none]

/-- What a unit does not have is in the usage of a value only if the value is a literal that has it. -/
lemma assignedFrom_iff {e : Expr} (P : Usage → Prop) (hu : ¬ P unit) :
    P (assignedFrom e) ↔ ∃ elements, e.Builds elements ∧ P (ofElements elements) := by
  by_cases h : ∃ elements, e.Builds elements
  · obtain ⟨elements, hb⟩ := h
    rw [assignedFrom_of_builds hb]
    constructor
    · intro hp
      exact ⟨elements, hb, hp⟩
    · rintro ⟨others, hb', hp⟩
      rwa [hb.unique hb']
  · rw [assignedFrom_of_not_builds (not_exists.1 h)]
    refine iff_of_false hu ?_
    rintro ⟨elements, hb, _⟩
    exact h ⟨elements, hb⟩

/-- A field is written as a unit exactly if its value is taken whole. -/
lemma isWhole_assignedFrom {e : Expr} : (assignedFrom e).isWhole = true ↔ e.TakenWhole := by
  by_cases h : ∃ elements, e.Builds elements
  · obtain ⟨elements, hb⟩ := h
    rw [assignedFrom_of_builds hb, isWhole_ofElements]
    constructor
    · rintro ⟨element, hm⟩
      exact .inr ⟨elements, element, hb, hm⟩
    · rintro (hn | ⟨others, element, hb', hm⟩)
      · exact absurd hb (hn elements)
      · exact ⟨element, hb.unique hb' ▸ hm⟩
  · rw [assignedFrom_of_not_builds (not_exists.1 h)]
    exact iff_of_true rfl (.inl (not_exists.1 h))

/-! ## One step down -/

/-- The usage of a literal is merged from those of its elements. -/
lemma ofElements_eq (elements : List (Element Expr)) :
    ofElements elements = mergeAll (elements.map ofElement) := by
  induction elements with
  | nil => rfl
  | cons element elements ih => rw [ofElements, ih, List.map_cons, mergeAll_cons]

/-- A question about what is below a field is answered by the elements that stand under its name. -/
lemma ofElements_iff {elements : List (Element Expr)} {name : String} (P : Usage → Prop)
    {Q : Expr → Prop} (merged : ∀ us, P (mergeAll us) ↔ ∃ u ∈ us, P u) (hu : ¬ P unit)
    (field : ∀ key value, P (below [key] (assignedFrom value)) ↔ name = key ∧ Q value) :
    P (ofElements elements) ↔ ∃ value, .field name value ∈ elements ∧ Q value := by
  have empty : ¬ P ∅ := by
    rw [← mergeAll_nil, merged]
    rintro ⟨u, hm, _⟩
    cases hm
  rw [ofElements_eq, merged]
  constructor
  · rintro ⟨u, hm, h⟩
    obtain ⟨element, he, rfl⟩ := List.mem_map.1 hm
    cases element with
    | positional value => exact absurd h hu
    | keyed key value => exact absurd h empty
    | field key value =>
      obtain ⟨rfl, hq⟩ := (field key value).1 h
      exact ⟨value, he, hq⟩
  · rintro ⟨value, hm, hq⟩
    exact ⟨_, List.mem_map_of_mem hm, (field name value).2 ⟨rfl, hq⟩⟩

/-- A literal has a node below a field exactly if some value for the field has it. -/
lemma hasNode_ofElements_cons {elements : List (Element Expr)} {name : String} {path : Path} :
    (ofElements elements).hasNode (name :: path) = true ↔
      ∃ value, .field name value ∈ elements ∧ (assignedFrom value).hasNode path = true := by
  apply ofElements_iff (·.hasNode (name :: path) = true)
  · intro us
    rw [hasNode_mergeAll, List.any_eq_true]
  · simp
  · intro key value
    rw [hasNode_below_cons, below_nil, Bool.and_eq_true, decide_eq_true_eq]

/-- A value below a field is consumed as a unit exactly if one of the elements under the name of the
    field consumes it. -/
lemma wholeAt_ofElements_cons {elements : List (Element Expr)} {name : String} {path : Path} :
    (ofElements elements).wholeAt (name :: path) = true ↔
      ∃ value, .field name value ∈ elements ∧ (assignedFrom value).wholeAt path = true := by
  apply ofElements_iff (·.wholeAt (name :: path) = true)
  · intro us
    exact wholeAt_mergeAll
  · simp
  · intro key value
    rw [wholeAt_below_cons, below_nil, Bool.and_eq_true, decide_eq_true_eq]

/-- A method is called on a value below a field exactly if one of the elements under the name of the
    field calls it. -/
lemma mem_methodsAt_ofElements_cons {elements : List (Element Expr)} {name method : String}
    {path : Path} :
    method ∈ (ofElements elements).methodsAt (name :: path) ↔
      ∃ value, .field name value ∈ elements ∧ method ∈ (assignedFrom value).methodsAt path := by
  apply ofElements_iff (method ∈ ·.methodsAt (name :: path))
  · intro us
    exact mem_methodsAt_mergeAll
  · simp
  · intro key value
    rw [methodsAt_below_cons, below_nil]
    by_cases h : name = key <;> simp [h]

/-! ## The whole way down -/

/-- There is a node at a path exactly if the path leads to a value. -/
lemma hasNode_ofElements {elements : List (Element Expr)} {path : Path} (hp : path ≠ []) :
    (ofElements elements).hasNode path = true ↔ ∃ value, Supplies elements path value := by
  induction path generalizing elements with
  | nil => exact absurd rfl hp
  | cons name path ih =>
    rw [hasNode_ofElements_cons]
    constructor
    · rintro ⟨outer, hm, hn⟩
      cases path with
      | nil => exact ⟨outer, .field hm⟩
      | cons next path =>
        obtain ⟨inner, hb, hn⟩ := (assignedFrom_iff (·.hasNode (next :: path) = true) (by simp)).1 hn
        obtain ⟨value, hs⟩ := (ih (List.cons_ne_nil _ _)).1 hn
        exact ⟨value, .inside hm hb hs⟩
    · rintro ⟨value, hs⟩
      cases hs with
      | field hm => exact ⟨value, hm, rfl⟩
      | @inside _ inner _ outer _ _ hm hb hs =>
        refine ⟨outer, hm, ?_⟩
        rw [assignedFrom_of_builds hb]
        exact (ih hs.ne_nil).2 ⟨value, hs⟩

/-- A node below the literal is consumed as a unit exactly if one of the values at its path is. -/
lemma wholeAt_ofElements {elements : List (Element Expr)} {path : Path} (hp : path ≠ []) :
    (ofElements elements).wholeAt path = true ↔
      ∃ value, Supplies elements path value ∧ value.TakenWhole := by
  induction path generalizing elements with
  | nil => exact absurd rfl hp
  | cons name path ih =>
    rw [wholeAt_ofElements_cons]
    constructor
    · rintro ⟨outer, hm, hc⟩
      cases path with
      | nil => exact ⟨outer, .field hm, isWhole_assignedFrom.1 hc⟩
      | cons next path =>
        obtain ⟨inner, hb, hc⟩ := (assignedFrom_iff (·.wholeAt (next :: path) = true) (by simp)).1 hc
        obtain ⟨value, hs, hw⟩ := (ih (List.cons_ne_nil _ _)).1 hc
        exact ⟨value, .inside hm hb hs, hw⟩
    · rintro ⟨value, hs, hw⟩
      cases hs with
      | field hm => exact ⟨value, hm, isWhole_assignedFrom.2 hw⟩
      | @inside _ inner _ outer _ _ hm hb hs =>
        refine ⟨outer, hm, ?_⟩
        rw [assignedFrom_of_builds hb]
        exact (ih hs.ne_nil).2 ⟨value, hs, hw⟩

/-- A literal calls no method on any of the values that it supplies. -/
lemma not_mem_methodsAt_ofElements {elements : List (Element Expr)} {method : String} {path : Path} :
    method ∉ (ofElements elements).methodsAt path := by
  induction path generalizing elements with
  | nil => exact not_mem_methods_ofElements elements method
  | cons name path ih =>
    rw [mem_methodsAt_ofElements_cons]
    rintro ⟨outer, _, hc⟩
    obtain ⟨inner, _, hc⟩ := (assignedFrom_iff (method ∈ ·.methodsAt path) (by simp)).1 hc
    exact ih hc

end Usage

/-! ## The order of the elements -/

/-- The second expression comes from the first one by reordering the elements of literals, at any depth
    below field names, and by leaving out elements that do not stand under a field name. -/
inductive Expr.Rearranged : Expr → Expr → Prop where
  | refl (e : Expr) :
    Rearranged e e
  | trans {e e' e'' : Expr} :
    Rearranged e e' →
    Rearranged e' e'' →
    Rearranged e e''
  | paren {e e' : Expr} :
    Rearranged e e' →
    Rearranged (.paren e) (.paren e')
  | unary {op : String} {e e' : Expr} :
    Rearranged e e' →
    Rearranged (.unary op e) (.unary op e')
  | reorder {type : Option TypeExpr} {elements elements' : List (Element Expr)} :
    elements.Perm elements' →
    Rearranged (.composite type elements) (.composite type elements')
  | inside {type : Option TypeExpr} {name : String} {value value' : Expr}
      {elements : List (Element Expr)} :
    Rearranged value value' →
    Rearranged (.composite type (.field name value :: elements))
      (.composite type (.field name value' :: elements))
  | leaveOut {type : Option TypeExpr} {key value : Expr} {elements : List (Element Expr)} :
    Rearranged (.composite type (.keyed key value :: elements)) (.composite type elements)

namespace Usage

/-- The order of the elements does not matter. -/
lemma ofElements_of_perm {elements elements' : List (Element Expr)}
    (h : elements.Perm elements') : ofElements elements = ofElements elements' := by
  rw [ofElements_eq, ofElements_eq]
  apply mergeAll_congr
  intro u
  exact (h.map ofElement).mem_iff

/-- Rearranging a literal does not change what it supplies. -/
lemma ofLiteral?_of_rearranged {e e' : Expr} (h : e.Rearranged e') (address : Bool) :
    ofLiteral? address e' = ofLiteral? address e := by
  induction h generalizing address with
  | refl => rfl
  | trans _ _ ih ih' => rw [ih', ih]
  | paren _ ih => rw [ofLiteral?, ofLiteral?, ih]
  | unary _ ih => rw [ofLiteral?, ofLiteral?, ih]
  | reorder hp => rw [ofLiteral?, ofLiteral?, ofElements_of_perm hp]
  | inside _ ih => rw [ofLiteral?, ofLiteral?, ofElements, ofElements, ofElement, ofElement, ih]
  | leaveOut => rw [ofLiteral?, ofLiteral?, ofElements, ofElement, empty_merge]

end Usage

/-- An expression supplies fields exactly if it is a literal, in parentheses or not and behind at most
    one `&`. Its usage then has a node at a path exactly if the path leads through elements under field
    names, with literals on the way, to a value. Such a node is consumed as a unit exactly if one of the
    values at its path is no literal or has a positional element, and the root exactly if the literal
    itself has one. No method is recorded. Neither the order of elements nor those under other keys than
    field names make a difference, at any depth. -/
theorem supplied_mirrors_literal (e : Expr) :
    ((Usage.supplied? e).isSome = true ↔ ∃ elements, e.Builds elements) ∧
    (∀ elements, e.Builds elements → ∃ usage, Usage.supplied? e = some usage ∧
      (∀ path, (usage.node? path).isSome = true ↔
        path = [] ∨ ∃ value, Supplies elements path value) ∧
      (∀ path, path ≠ [] → (usage.wholeAt path = true ↔
        ∃ value, Supplies elements path value ∧ value.TakenWhole)) ∧
      (usage.isWhole = true ↔ ∃ element, .positional element ∈ elements) ∧
      ∀ path, usage.methodsAt path = ∅) ∧
    ∀ e', e.Rearranged e' → Usage.supplied? e' = Usage.supplied? e := by
  refine ⟨?_, fun elements hb => ?_, fun e' h => Usage.ofLiteral?_of_rearranged h true⟩
  · constructor
    · intro h
      by_contra hn
      rw [Usage.supplied?_of_not_builds (not_exists.1 hn)] at h
      cases h
    · rintro ⟨elements, hb⟩
      rw [Usage.supplied?_of_builds hb]
      rfl
  · refine ⟨_, Usage.supplied?_of_builds hb, fun path => ?_, fun path hp => ?_,
      Usage.isWhole_ofElements, fun path => ?_⟩
    · rw [Usage.isSome_node?]
      by_cases hp : path = []
      · rw [hp]
        exact iff_of_true rfl (.inl rfl)
      · rw [Usage.hasNode_ofElements hp, or_iff_right hp]
    · exact Usage.wholeAt_ofElements hp
    · apply OrderedSet.ext_mem
      intro method
      exact iff_of_false Usage.not_mem_methodsAt_ofElements (OrderedSet.not_mem_empty method)

namespace Sample

/-- The value `{Name: n}` without a written type. -/
def roleByName : Expr := .composite none [.field "Name" (.ident "n")]

/-- The value `({x})`, a positional literal in parentheses. -/
def roleByPlace : Expr := .paren (.composite none [.positional (.ident "x")])

/-- The literal behind `&`, with these elements. -/
def user (elements : List (Element Expr)) : Expr :=
  .paren (.unary "&" (.composite (some (.named none "UserDTO")) elements))

end Sample

/-- A literal that sets one field twice and has an element under another key supplies the same as one
    without that element and with the two in the other order: the field by name, and as a unit. -/
theorem supplied_roles :
    ∃ usage,
      Usage.supplied? (Sample.user [.keyed (.literal "0") (.ident "z"),
        .field "Role" Sample.roleByName, .field "Role" Sample.roleByPlace]) = some usage ∧
      Usage.supplied? (Sample.user [.field "Role" Sample.roleByPlace,
        .field "Role" Sample.roleByName]) = some usage ∧
      (usage.node? ["Role", "Name"]).isSome = true ∧ usage.wholeAt ["Role"] = true ∧
      usage.isWhole = false := by
  obtain ⟨_, mirrors, rearranged⟩ := supplied_mirrors_literal (Sample.user
    [.keyed (.literal "0") (.ident "z"), .field "Role" Sample.roleByName,
      .field "Role" Sample.roleByPlace])
  obtain ⟨usage, hu, node, whole, root, _⟩ := mirrors _ ⟨_, rfl⟩
  refine ⟨usage, hu, (rearranged _ ?_).trans hu, ?_, ?_, ?_⟩
  · exact .paren (.unary (.trans .leaveOut (.reorder (.swap _ _ _))))
  · apply (node _).2
    exact .inr ⟨.ident "n", .inside (List.mem_cons_of_mem _ List.mem_cons_self) ⟨none, rfl⟩
      (.field List.mem_cons_self)⟩
  · apply (whole ["Role"] (List.cons_ne_nil _ _)).2
    refine ⟨Sample.roleByPlace, .field ?_, .inr ⟨_, _, ⟨none, rfl⟩, List.mem_cons_self⟩⟩
    exact List.mem_cons_of_mem _ (List.mem_cons_of_mem _ List.mem_cons_self)
  · rw [Bool.eq_false_iff, Ne, root]
    rintro ⟨element, hm⟩
    simp at hm

end FieldAudit
