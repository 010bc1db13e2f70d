import Mathlib
import FieldAudit.Proofs.LiteralFields

/-!
# Builder chains

A value may be built by methods that are called one after the other on a literal, as in
`(&T{A: x}).WithB(y).Build()`. However long the chain is, and whatever parentheses and `&` stand between the
calls, the literal at its start is found, and the fields of it count as supplied to the result wherever a
statement of the body hands the chain over.
-/

namespace FieldAudit

/-- The expression is made from the first one by any number of method calls. There may be parentheses
    everywhere, and one `&` around the first one and around the result of each call; the flag says that
    the one around the last result is there. -/
inductive Expr.ChainsOn (start : Expr) : Bool → Expr → Prop where
  | start :
    ChainsOn start false start
  | paren {addressed : Bool} {e : Expr} :
    ChainsOn start addressed e →
    ChainsOn start addressed (.paren e)
  | address {e : Expr} :
    ChainsOn start false e →
    ChainsOn start true (.unary "&" e)
  | method {addressed : Bool} {e callee : Expr} {name : String} {args : List Expr} :
    ChainsOn start addressed e →
    callee.unparen = .selector e name →
    ChainsOn start false (.call callee args)

/-- The value is assigned, declared or returned by the statement. -/
inductive Stmt.HandsOver : Stmt → Expr → Prop where
  | assigned {targets values : List Expr} {op : AssignOp} {value : Expr} :
    value ∈ values →
    HandsOver (.assign targets op values) value
  | declared {names : List String} {type : Option TypeExpr} {values : List Expr} {value : Expr} :
    value ∈ values →
    HandsOver (.var names type values) value
  | returned {values : List Expr} {value : Expr} :
    value ∈ values →
    HandsOver (.ret values) value

/-- The first expression is a call of `append`, in parentheses or not, that appends the second one. -/
def Expr.Appends (e element : Expr) : Prop :=
  ∃ first elements, e.unparen = .call (.ident "append") (first :: elements) ∧ element ∈ elements

/-! ## Names of written types -/

/-- The characters are the same, or one is the lower case of the other as an ASCII letter. -/
def SameLetter (x y : Char) : Prop := x = y ∨ x.toLower = y ∨ x = y.toLower

/-- The written type is a name, or a pointer to one, that is the given name but for the case of ASCII
    letters. -/
def TypeExpr.IsNamed (type : TypeExpr) (name : String) : Prop :=
  ∃ package base, (type = .named package base ∨ type = .pointer (.named package base)) ∧
    List.Forall₂ SameLetter base.toList name.toList

/-- Two characters have one lower case exactly if they are the same letter up to case. -/
lemma toLower_eq_toLower_iff {x y : Char} : x.toLower = y.toLower ↔ SameLetter x y := by
  constructor
  · intro e
    by_cases hx : x.isUpper
    · by_cases hy : y.isUpper
      · left
        rw [← Char.toUpper_eq_of_not_isLower (Char.not_isLower_of_isUpper hx),
          ← Char.toUpper_eq_of_not_isLower (Char.not_isLower_of_isUpper hy),
          ← Char.toUpper_toLower_eq_toUpper x, e, Char.toUpper_toLower_eq_toUpper]
      · rw [Char.toLower_eq_of_not_isUpper hy] at e
        exact .inr (.inl e)
    · rw [Char.toLower_eq_of_not_isUpper hx] at e
      exact .inr (.inr e)
  · rintro (rfl | rfl | rfl)
    · rfl
    · exact (Char.toLower_toLower_eq_toLower x).symm
    · exact Char.toLower_toLower_eq_toLower y

/-- Names are compared letter by letter, up to case. -/
lemma sameName_iff {a b : String} :
    sameName a b = true ↔ List.Forall₂ SameLetter a.toList b.toList := by
  rw [sameName, beq_iff_eq, ← List.forall₂_eq_eq_eq, List.forall₂_map_left_iff,
    List.forall₂_map_right_iff]
  simp only [toLower_eq_toLower_iff]

/-- The types with a base name are the named types and the pointers to them. -/
lemma TypeExpr.baseName?_eq_some {type : TypeExpr} {base : String} :
    type.baseName? = some base ↔
      ∃ package, type = .named package base ∨ type = .pointer (.named package base) := by
  constructor
  · intro h
    unfold TypeExpr.baseName? at h
    split at h
    · cases h
      exact ⟨_, .inl rfl⟩
    · cases h
      exact ⟨_, .inr rfl⟩
    · cases h
  · rintro ⟨package, rfl | rfl⟩
    · rfl
    · rfl

/-- The test for a base name decides whether the type is named so, up to case and a pointer. -/
lemma TypeExpr.hasBase_iff {type : TypeExpr} {name : String} :
    type.hasBase name = true ↔ type.IsNamed name := by
  simp only [TypeExpr.hasBase, Option.any_eq_true, TypeExpr.baseName?_eq_some, sameName_iff]
  constructor
  · rintro ⟨base, ⟨package, ht⟩, hn⟩
    exact ⟨package, base, ht, hn⟩
  · rintro ⟨package, base, ht, hn⟩
    exact ⟨base, ⟨package, ht⟩, hn⟩

/-! ## Along the chain -/

section

variable {type : TypeExpr} {elements : List (Element Expr)} {addressed : Bool} {e : Expr}

namespace Expr.ChainsOn

/-- Each step of a chain passes the search on, and a call lets it pass one more `&`. -/
lemma ofConstruction?_eq (h : ChainsOn (.composite (some type) elements) addressed e)
    (typeName : String) {address : Bool} (ha : addressed = true → address = true) :
    Usage.ofConstruction? typeName address e =
      if type.hasBase typeName then some (Usage.ofElements elements) else none := by
  induction h generalizing address with
  | start => rw [Usage.ofConstruction?]
  | paren _ ih =>
    rw [Usage.ofConstruction?]
    exact ih ha
  | address _ ih =>
    rw [Usage.ofConstruction?, ha rfl, beq_self_eq_true, Bool.and_self, if_pos rfl]
    exact ih Bool.noConfusion
  | method _ hc ih =>
    rw [Usage.ofConstruction?, ← Usage.ofReceiver?_unparen, hc, Usage.ofReceiver?]
    exact ih fun _ => rfl

/-- A chain on a literal of the wanted type constructs what the elements of the literal supply. -/
lemma constructed?_of_isNamed (h : ChainsOn (.composite (some type) elements) addressed e)
    {typeName : String} (ht : type.IsNamed typeName) :
    Usage.constructed? e typeName = some (Usage.ofElements elements) := by
  rw [Usage.constructed?, h.ofConstruction?_eq typeName fun _ => rfl,
    if_pos (TypeExpr.hasBase_iff.2 ht)]

/-- A chain on a literal of another type constructs nothing. -/
lemma constructed?_of_not_isNamed (h : ChainsOn (.composite (some type) elements) addressed e)
    {typeName : String} (ht : ¬ type.IsNamed typeName) : Usage.constructed? e typeName = none := by
  rw [Usage.constructed?, h.ofConstruction?_eq typeName fun _ => rfl,
    if_neg (mt TypeExpr.hasBase_iff.1 ht)]

/-- The outermost call of a chain has a selector for its callee, so it is no call of `append`. -/
lemma unparen_ne_append (h : ChainsOn (.composite (some type) elements) addressed e)
    (args : List Expr) : e.unparen ≠ .call (.ident "append") args := by
  induction h with
  | start => exact Expr.noConfusion
  | paren _ ih =>
    rw [Expr.unparen]
    exact ih
  | address _ _ => exact Expr.noConfusion
  | method _ hc _ =>
    rintro ⟨⟩
    cases hc

/-- A chain is handed over as it is, without parentheses. -/
lemma handedOver_eq (h : ChainsOn (.composite (some type) elements) addressed e) :
    e.handedOver = [e.unparen] := by
  rw [Expr.handedOver]
  split
  · rename_i first others hu
    exact absurd hu (h.unparen_ne_append _)
  · rfl

end Expr.ChainsOn

/-- A value that is appended is handed over by the call. -/
lemma Expr.Appends.mem_handedOver {call : Expr} (h : call.Appends e) : e ∈ call.handedOver := by
  obtain ⟨first, others, hu, hm⟩ := h
  rw [Expr.handedOver, hu]
  exact hm

/-- What a statement hands over is among the values that it produces. -/
lemma Stmt.HandsOver.mem_produced {s : Stmt} {value : Expr} (h : s.HandsOver value)
    (hm : e ∈ value.handedOver) : e ∈ s.produced := by
  cases h with
  | assigned hv => exact List.mem_flatMap.2 ⟨value, hv, hm⟩
  | declared hv => exact List.mem_flatMap.2 ⟨value, hv, hm⟩
  | returned hv => exact List.mem_flatMap.2 ⟨value, hv, hm⟩

/-- A chain that a statement hands over is among the produced values, with or without the parentheses
    around it. -/
lemma Expr.ChainsOn.exists_produced (h : ChainsOn (.composite (some type) elements) addressed e)
    {typeName : String} (ht : type.IsNamed typeName) {s : Stmt} {value : Expr}
    (hs : s.HandsOver value) (hv : value = e ∨ value.Appends e) :
    ∃ e' ∈ s.produced, Usage.constructed? e' typeName = some (Usage.ofElements elements) := by
  have constructed := h.constructed?_of_isNamed ht
  rcases hv with rfl | hv
  · refine ⟨value.unparen, hs.mem_produced ?_, ?_⟩
    · rw [h.handedOver_eq]
      exact List.mem_singleton_self _
    · rwa [Usage.constructed?, Usage.ofConstruction?_unparen]
  · exact ⟨e, hs.mem_produced hv.mem_handedOver, constructed⟩

end

namespace Block

variable {body : Block} {s : Stmt} {typeName : String} {e : Expr} {u : Usage}

/-- Every node of a construction that a statement of the body produces is among the constructions. -/
lemma hasNode_constructions (hs : Block.Contains body (.stmt s)) (he : e ∈ s.produced)
    (hu : Usage.constructed? e typeName = some u) {name : String} {path : Path}
    (hn : u.hasNode (name :: path) = true) :
    (Block.constructions body typeName).hasNode (name :: path) = true := by
  have produced : e ∈ (Block.statements body).flatMap Stmt.produced :=
    List.mem_flatMap.2 ⟨s, mem_statements.2 hs, he⟩
  rw [Block.constructions_eq, Usage.hasNode_mergeAll, List.any_eq_true]
  exact ⟨u, List.mem_filterMap.2 ⟨e, produced, hu⟩, hn⟩

/-- What is constructed is supplied to the result, whichever variable holds it. -/
lemma hasNode_outputUsage {path : Path}
    (hn : (Block.constructions body typeName).hasNode path = true) (resultName : Option String) :
    (Block.outputUsage body resultName typeName).usage.tree.hasNode path = true := by
  rw [tree_outputUsage, Usage.hasNode_merge, hn, Bool.or_true]

/-- A field that is supplied by a construction is one that the function writes. -/
lemma mem_fields_outputUsage {name : String}
    (hn : (Block.constructions body typeName).hasNode [name] = true) (resultName : Option String) :
    name ∈ (Block.outputUsage body resultName typeName).usage.fields := by
  rw [← Usage.hasField_eq_hasNode, ← Usage.mem_fieldNames] at hn
  exact OrderedSet.mem_union.2 (.inr hn)

end Block

/-- A chain of method calls on a literal of a written type, of any length, is a construction with the
    fields of the literal if the type has the looked-for name, and none otherwise. If it has, then
    wherever in a body a statement assigns, declares or returns the chain, or a call of `append` with it
    among the appended elements, each field that the literal sets is in the fields and in the tree of
    the result, and so is every path below it through nested literals. -/
theorem constructed_through_chain {type : TypeExpr} {elements : List (Element Expr)}
    {addressed : Bool} {e : Expr} (h : Expr.ChainsOn (.composite (some type) elements) addressed e)
    (typeName : String) :
    ∃ usage, Usage.supplied? (.composite (some type) elements) = some usage ∧
      (type.IsNamed typeName → Usage.constructed? e typeName = some usage) ∧
      (¬ type.IsNamed typeName → Usage.constructed? e typeName = none) ∧
      ∀ body s value, Block.Contains body (.stmt s) → s.HandsOver value →
        (value = e ∨ value.Appends e) → type.IsNamed typeName → ∀ resultName,
        (∀ name v, .field name v ∈ elements →
          name ∈ (Block.outputUsage body resultName typeName).usage.fields) ∧
        ∀ path v, Supplies elements path v →
          ((Block.outputUsage body resultName typeName).usage.tree.node? path).isSome = true := by
  refine ⟨_, Usage.supplied?_of_builds ⟨some type, rfl⟩, h.constructed?_of_isNamed,
    h.constructed?_of_not_isNamed, ?_⟩
  intro body s value hs hv he ht resultName
  obtain ⟨e', hp, hc⟩ := h.exists_produced ht hv he
  have built : ∀ {path v}, Supplies elements path v →
      (Block.constructions body typeName).hasNode path = true := by
    intro path v hsup
    have node := (Usage.hasNode_ofElements hsup.ne_nil).2 ⟨v, hsup⟩
    cases path with
    | nil => exact absurd rfl hsup.ne_nil
    | cons name path => exact Block.hasNode_constructions hs hp hc node
  constructor
  · intro name v hm
    exact Block.mem_fields_outputUsage (built (.field hm)) resultName
  · intro path v hsup
    rw [Usage.isSome_node?]
    exact Block.hasNode_outputUsage (built hsup) resultName

namespace Sample

/-- The literal `dto.UserDTO{ID: u.ID, Role: {Name: n}}`. -/
def builtUser : List (Element Expr) :=
  [.field "ID" (.selector (.ident "u") "ID"), .field "Role" roleByName]

/-- The literal behind `&`, with `WithAge` called on it in parentheses and `Build` on the result. -/
def builderChain : Expr :=
  .call (.selector (.call (.paren (.selector
    (.paren (.unary "&" (.composite (some (.named (some "dto") "UserDTO")) builtUser)))
    "WithAge")) [.ident "age"]) "Build") []

/-- A body that returns the chain appended to a list, from a closure in a clause of a switch. -/
def appendsChain : Block :=
  [.switch none none [⟨[], [.expr (.call (.funcLit
    [.ret [.paren (.call (.ident "append") [.ident "out", builderChain])]]) [])]⟩]]

/-- The sample chain stands on its literal. -/
lemma chainsOn_builderChain :
    Expr.ChainsOn (.composite (some (.named (some "dto") "UserDTO")) builtUser) false
      builderChain :=
  .method (.method (.paren (.address .start)) rfl) rfl

end Sample

/-- A closure in a clause of a switch appends the result of two calls: the fields of the literal are
    found for a name in other letters, and nothing is for another name. -/
theorem constructed_through_builderChain :
    (∃ usage, Usage.constructed? Sample.builderChain "userDTO" = some usage) ∧
      Usage.constructed? Sample.builderChain "User" = none ∧
      "ID" ∈ (Block.outputUsage Sample.appendsChain none "userDTO").usage.fields ∧
      ((Block.outputUsage Sample.appendsChain none "userDTO").usage.tree.node?
        ["Role", "Name"]).isSome = true := by
  have named : TypeExpr.IsNamed (.named (some "dto") "UserDTO") "userDTO" :=
    ⟨_, _, .inl rfl, by simp [SameLetter]⟩
  obtain ⟨usage, _, found, _, everywhere⟩ :=
    constructed_through_chain Sample.chainsOn_builderChain "userDTO"
  obtain ⟨_, _, _, other, _⟩ := constructed_through_chain Sample.chainsOn_builderChain "User"
  obtain ⟨fields, nodes⟩ := everywhere Sample.appendsChain
    (.ret [.paren (.call (.ident "append") [.ident "out", Sample.builderChain])]) _
    ⟨_, List.mem_cons_self, .part List.mem_cons_self (.part List.mem_cons_self
      (.part List.mem_cons_self (.part List.mem_cons_self (.refl _))))⟩
    (.returned List.mem_cons_self) (.inr ⟨_, _, rfl, List.mem_cons_self⟩) named none
  refine ⟨⟨usage, found named⟩, other ?_, fields "ID" _ List.mem_cons_self, nodes _ (.ident "n") ?_⟩
  · rw [← TypeExpr.hasBase_iff]
    decide
  · exact .inside (List.mem_cons_of_mem _ List.mem_cons_self) ⟨none, rfl⟩
      (.field List.mem_cons_self)

end FieldAudit
