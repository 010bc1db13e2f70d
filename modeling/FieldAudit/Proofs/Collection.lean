import Mathlib
import FieldAudit.Converter.Verdict
import FieldAudit.Proofs.Containment
import FieldAudit.Proofs.UsageTree

/-!
# What a body records

Every record about a variable is made at a selector of the body, and every record about a
construction comes from a composite literal of the body. So a direct field of a collected usage is
always the name of a selector or the key of a literal that can be pointed at in the source.
-/

namespace FieldAudit

/-! ## The walks of the collectors -/

namespace Block

/-- The element of a range is the first one that a statement of the body gives. -/
lemma rangeElement?_eq (body : Block) (var : String) :
    Block.rangeElement? body var = (Block.statements body).findSome? (Stmt.rangeElement? var) :=
  findStmt?_eq (Stmt.rangeElement? var) body

/-- The names bound to results of calls, statement by statement. -/
lemma callBound_eq (body : Block) :
    Block.callBound body = (Block.statements body).flatMap Stmt.callBound := by
  rw [Block.callBound, foldStmts_eq, List.flatMap_eq_foldl]

/-- A body stores the result of a call if one of its nodes does. -/
lemma storesCall_eq (body : Block) :
    Block.storesCall body =
      (Block.visits body).any (·.node.storesCall (Block.callBound body)) :=
  walk_any (Node.storesCall (Block.callBound body)) body

/-- The output variable is the first one that a statement of the body binds, unless it is blank. -/
lemma outputVar?_eq (body : Block) (typeName : String) :
    Block.outputVar? body typeName =
      ((Block.statements body).findSome? (Stmt.boundTo? typeName)).filter (· != "_") := by
  rw [Block.outputVar?, findStmt?_eq]

/-- The constructions of a body are the merge of what its statements build. -/
lemma constructions_eq (body : Block) (typeName : String) :
    Block.constructions body typeName =
      .mergeAll (((Block.statements body).flatMap Stmt.produced).filterMap
        (Usage.constructed? · typeName)) := by
  rw [Block.constructions, foldStmts_eq, ← List.foldl_flatMap, Usage.foldl_elim_merge,
    Usage.empty_merge]

end Block

/-- What a body does with a variable is the merge of what its visits record. -/
lemma VariableUsage.collect_eq_visits (body : Block) (var : String) :
    collect body var = mergeAll ((Block.visits body).map (ofVisit var)) := by
  rw [collect, Block.walk_all, foldl_merge, empty_merge]

/-! ## Records and the selectors that they are made at -/

/-- Every name of a selector chain is selected in it. -/
lemma Expr.chain?_contains {e : Expr} {root name : String} {path : Path}
    (hc : e.chain? = some (root, path)) (hn : name ∈ path) :
    ∃ base, (Node.expr e).Contains (.expr (.selector base name)) := by
  -- a selector adds the last name of the path; the other links pass the path on
  induction e using Expr.chain?.induct generalizing path with
  | case1 x =>
    cases hc
    cases hn
  | case2 base field ih =>
    obtain ⟨⟨root', path'⟩, hb, e⟩ := Option.map_eq_some_iff.1 hc
    cases e
    rcases List.mem_append.1 hn with hn | hn
    · obtain ⟨b, h⟩ := ih hb hn
      exact ⟨b, .part List.mem_cons_self h⟩
    · obtain rfl := List.mem_singleton.1 hn
      exact ⟨base, .refl _⟩
  | case3 base operands ih =>
    obtain ⟨b, h⟩ := ih hc hn
    exact ⟨b, .part List.mem_cons_self h⟩
  | case4 inner ih =>
    obtain ⟨b, h⟩ := ih hc hn
    exact ⟨b, .part List.mem_cons_self h⟩
  | case5 op operand hop ih =>
    rw [Expr.chain?, if_pos hop] at hc
    obtain ⟨b, h⟩ := ih hc hn
    exact ⟨b, .part List.mem_cons_self h⟩
  | case6 op operand hop =>
    rw [Expr.chain?, if_neg hop] at hc
    cases hc
  | case7 e _ _ _ _ _ =>
    simp [Expr.chain?] at hc

/-- The chain of a selector is not empty. -/
lemma Expr.chain?_selector_ne_nil {base : Expr} {field root : String} {path : Path}
    (hc : (Expr.selector base field).chain? = some (root, path)) : path ≠ [] := by
  obtain ⟨⟨_, p⟩, _, e⟩ := Option.map_eq_some_iff.1 hc
  cases e
  simp

namespace VariableUsage

/-- A merged list of usages has the merge of their trees. -/
lemma tree_mergeAll (us : List VariableUsage) :
    (mergeAll us).tree = .mergeAll (us.map (·.tree)) := by
  induction us with
  | nil => rfl
  | cons u us ih =>
    rw [List.map_cons, Usage.mergeAll_cons, ← ih]
    rfl

/-- An access to a path records no direct field that the path does not name. -/
lemma mem_path_of_hasField_ofAccess {path : Path} {access : Access} {name : String}
    (hp : path ≠ []) (hf : (ofAccess path access).tree.hasField name = true) : name ∈ path := by
  obtain ⟨field, rest, rfl⟩ := List.exists_cons_of_ne_nil hp
  cases access with
  | read | ignored | assigned value =>
    simp only [ofAccess, Usage.hasField_below_cons, beq_iff_eq] at hf
    exact hf ▸ List.mem_cons_self
  | called =>
    simp only [ofAccess, List.getLast?_eq_some_getLast hp] at hf
    split at hf
    · cases hf
    · rename_i first rest' e
      simp only [Usage.hasField_below_cons, beq_iff_eq] at hf
      subst hf
      exact List.mem_of_mem_dropLast (e ▸ List.mem_cons_self)

/-- An access to a path records no call on the variable that the path does not name. -/
lemma mem_path_of_mem_methods_ofAccess {path : Path} {access : Access} {method : String}
    (hp : path ≠ []) (hm : method ∈ (ofAccess path access).tree.methods) : method ∈ path := by
  obtain ⟨field, rest, rfl⟩ := List.exists_cons_of_ne_nil hp
  cases access with
  | read | ignored | assigned value =>
    simp only [ofAccess, Usage.not_mem_methods_below_cons] at hm
  | called =>
    simp only [ofAccess, List.getLast?_eq_some_getLast hp] at hm
    split at hm
    · rw [Usage.methods_call, OrderedSet.mem_singleton] at hm
      rw [hm]
      exact List.getLast_mem _
    · simp only [Usage.not_mem_methods_below_cons] at hm

/-- A visit records nothing, or it records the access of a selector chain on the variable. -/
lemma ofVisit_cases (var : String) (v : Visit) :
    ofVisit var v = ∅ ∨
      ∃ base field path, v.node = .expr (.selector base field) ∧
        (Expr.selector base field).chain? = some (var, path) ∧
        ofVisit var v = ofAccess path (.ofFrames v.frames) := by
  obtain ⟨n, frames⟩ := v
  unfold ofVisit
  split
  · rename_i base field e
    split
    · exact .inl rfl
    · split
      · rename_i root path hc
        split
        · rename_i hr
          subst hr
          exact .inr ⟨base, field, path, e, hc, rfl⟩
        · exact .inl rfl
      · exact .inl rfl
  · exact .inl rfl

/-- What a visit records at the root of the tree is selected in the visited node. -/
lemma contains_of_ofVisit {var name : String} {v : Visit}
    (h : (ofVisit var v).tree.hasField name = true ∨ name ∈ (ofVisit var v).tree.methods) :
    ∃ base, v.node.Contains (.expr (.selector base name)) := by
  rcases ofVisit_cases var v with e | ⟨base, field, path, hn, hc, e⟩
  · rw [e] at h
    rcases h with h | h
    · cases h
    · exact absurd h (Usage.not_mem_methods_empty name)
  · rw [e] at h
    rw [hn]
    have hp := Expr.chain?_selector_ne_nil hc
    rcases h with h | h
    · exact Expr.chain?_contains hc (mem_path_of_hasField_ofAccess hp h)
    · exact Expr.chain?_contains hc (mem_path_of_mem_methods_ofAccess hp h)

/-- What the nodes from this one down do with a variable, given the frames around it. -/
def collectFrom (var : String) (frames : List Frame) (n : Node) : VariableUsage :=
  mergeAll ((n.visits frames).map (ofVisit var))

/-- What a node does with a variable is what it records itself and what its parts do. -/
lemma collectFrom_eq (var : String) (frames : List Frame) (n : Node) :
    collectFrom var frames n =
      (ofVisit var ⟨n, frames⟩).merge
        (mergeAll (n.children.map fun p => collectFrom var (⟨n, p.1⟩ :: frames) p.2)) := by
  rw [collectFrom, Node.visits_eq, List.map_cons, mergeAll_cons, List.map_flatMap, mergeAll_flatMap]
  rfl

/-- Only selectors record something. -/
lemma ofVisit_of_not_selector {n : Node} (hn : n.selected? = none) (var : String)
    (frames : List Frame) : ofVisit var ⟨n, frames⟩ = ∅ := by
  rcases ofVisit_cases var ⟨n, frames⟩ with e | ⟨base, field, path, e, _⟩
  · exact e
  · obtain rfl : n = _ := e
    cases hn

/-- What a node that is no selector does with a variable is what its parts do. -/
lemma collectFrom_of_not_selector {n : Node} (hn : n.selected? = none) (var : String)
    (frames : List Frame) :
    collectFrom var frames n =
      mergeAll (n.children.map fun p => collectFrom var (⟨n, p.1⟩ :: frames) p.2) := by
  rw [collectFrom_eq, ofVisit_of_not_selector hn, empty_merge]

/-- What a body does with a variable is what its statements do. -/
lemma collect_eq (body : Block) (var : String) :
    collect body var = mergeAll (body.map fun s => collectFrom var [] (.stmt s)) := by
  rw [collect_eq_visits, Block.visits, List.map_flatMap, mergeAll_flatMap]
  rfl

/-- The tree that a body makes of a variable, visit by visit. -/
lemma tree_collect (body : Block) (var : String) :
    (collect body var).tree = .mergeAll ((Block.visits body).map fun v => (ofVisit var v).tree) := by
  rw [collect_eq_visits, tree_mergeAll, List.map_map]
  rfl

/-- A direct field that is recorded for a variable is selected in the body. -/
lemma selects_of_hasField_collect {body : Block} {var name : String}
    (hf : (collect body var).tree.hasField name = true) : Block.Selects body name := by
  rw [tree_collect, Usage.hasField_mergeAll, List.any_map] at hf
  obtain ⟨v, hv, hf⟩ := List.any_eq_true.1 hf
  obtain ⟨base, h⟩ := contains_of_ofVisit (.inl hf)
  exact ⟨base, (Block.Contains.of_visit hv).trans h⟩

/-- A method that is recorded for a variable is selected in the body. -/
lemma selects_of_mem_methods_collect {body : Block} {var method : String}
    (hm : method ∈ (collect body var).tree.methods) : Block.Selects body method := by
  rw [tree_collect, Usage.mem_methods_mergeAll] at hm
  obtain ⟨u, hu, hm⟩ := hm
  obtain ⟨v, hv, rfl⟩ := List.mem_map.1 hu
  obtain ⟨base, h⟩ := contains_of_ofVisit (.inr hm)
  exact ⟨base, (Block.Contains.of_visit hv).trans h⟩

end VariableUsage

/-- The expression inside parentheses stands in the expression. -/
lemma Expr.contains_unparen (e : Expr) : (Node.expr e).Contains (.expr e.unparen) := by
  induction e using Expr.unparen.induct with
  | case1 inner ih => exact .part List.mem_cons_self ih
  | case2 e h =>
    rw [Expr.unparen]
    · exact .refl _
    · exact h

/-- The values that an expression hands over stand in it. -/
lemma Expr.contains_of_mem_handedOver {e value : Expr} (hv : value ∈ e.handedOver) :
    (Node.expr e).Contains (.expr value) := by
  refine e.contains_unparen.trans ?_
  unfold Expr.handedOver at hv
  split at hv
  · rename_i first elements hu
    rw [hu]
    exact Node.contains_argument (List.mem_cons_of_mem first hv)
  · obtain rfl := List.mem_singleton.1 hv
    exact .refl _

/-- The values that a statement hands over stand in it. -/
lemma Stmt.contains_of_mem_produced {s : Stmt} {value : Expr} (hv : value ∈ s.produced) :
    (Node.stmt s).Contains (.expr value) := by
  cases s with
  | assign targets op values =>
    obtain ⟨e, he, hv⟩ := List.mem_flatMap.1 hv
    exact (Node.contains_assigned he).trans (Expr.contains_of_mem_handedOver hv)
  | var names type values | ret values =>
    obtain ⟨e, he, hv⟩ := List.mem_flatMap.1 hv
    exact .part (Node.mem_exprParts.2 ⟨e, he, rfl⟩) (Expr.contains_of_mem_handedOver hv)
  | _ => cases hv

namespace Usage

/-- The elements of a literal supply exactly the fields under which they stand. -/
lemma hasField_ofElements {elements : List (Element Expr)} {name : String} :
    (ofElements elements).hasField name = true ↔ ∃ value, .field name value ∈ elements := by
  induction elements with
  | nil => simp [ofElements]
  | cons element elements ih =>
    rw [ofElements, hasField_merge, Bool.or_eq_true, ih]
    cases element with
    | positional value => simp [ofElement]
    | keyed key value => simp [ofElement]
    | field key value => simp [ofElement, exists_or, eq_comm (a := key)]

mutual

/-- A construction is a composite literal of the type inside the expression. -/
lemma literal_of_ofConstruction? {typeName : String} {u : Usage} :
    ∀ {address : Bool} {e : Expr}, ofConstruction? typeName address e = some u →
      ∃ type elements, (Node.expr e).Contains (.expr (.composite (some type) elements)) ∧
        type.hasBase typeName = true ∧ u = ofElements elements
  -- three forms pass the search on to a part; the literal ends it
  | address, .paren inner, h => by
    rw [ofConstruction?] at h
    obtain ⟨type, elements, hc, rest⟩ := literal_of_ofConstruction? h
    exact ⟨type, elements, .part List.mem_cons_self hc, rest⟩
  | address, .unary op operand, h => by
    rw [ofConstruction?] at h
    split at h
    · obtain ⟨type, elements, hc, rest⟩ := literal_of_ofConstruction? h
      exact ⟨type, elements, .part List.mem_cons_self hc, rest⟩
    · cases h
  | address, .composite (some type) elements, h => by
    rw [ofConstruction?] at h
    split at h
    · rename_i ht
      cases h
      exact ⟨type, elements, .refl _, ht, rfl⟩
    · cases h
  | address, .call callee args, h => by
    rw [ofConstruction?] at h
    obtain ⟨type, elements, hc, rest⟩ := literal_of_ofReceiver? h
    exact ⟨type, elements, .part List.mem_cons_self hc, rest⟩
  | address, .composite none elements, h | address, .ident name, h
  | address, .selector base field, h | address, .index base operands, h
  | address, .binary op left right, h | address, .funcLit body, h
  | address, .assert base type, h | address, .type type, h
  | address, .literal text, h | address, .other, h => by simp [ofConstruction?] at h

/-- What a called method is applied to is a composite literal of the type inside the callee. -/
lemma literal_of_ofReceiver? {typeName : String} {u : Usage} :
    ∀ {e : Expr}, ofReceiver? typeName e = some u →
      ∃ type elements, (Node.expr e).Contains (.expr (.composite (some type) elements)) ∧
        type.hasBase typeName = true ∧ u = ofElements elements
  | .paren inner, h => by
    rw [ofReceiver?] at h
    obtain ⟨type, elements, hc, rest⟩ := literal_of_ofReceiver? h
    exact ⟨type, elements, .part List.mem_cons_self hc, rest⟩
  | .selector base field, h => by
    rw [ofReceiver?] at h
    obtain ⟨type, elements, hc, rest⟩ := literal_of_ofConstruction? h
    exact ⟨type, elements, .part List.mem_cons_self hc, rest⟩
  | .ident name, h | .call callee args, h | .index base operands, h | .unary op operand, h
  | .binary op left right, h | .composite type elements, h | .funcLit body, h
  | .assert base type, h | .type type, h | .literal text, h | .other, h => by
    simp [ofReceiver?] at h

end

/-- A construction is looked for inside parentheses. -/
lemma ofConstruction?_unparen (typeName : String) (address : Bool) (e : Expr) :
    ofConstruction? typeName address e.unparen = ofConstruction? typeName address e := by
  induction e using Expr.unparen.induct with
  | case1 inner ih => rw [Expr.unparen, ofConstruction?, ih]
  | case2 e h =>
    rw [Expr.unparen]
    exact h

/-- A construction is looked for behind one `&`, in what stands there without parentheses. -/
lemma constructed?_of_unaddress_eq {e inner : Expr} {typeName : String} (he : e.unaddress = inner)
    (hi : ofConstruction? typeName true inner = ofConstruction? typeName false inner) :
    constructed? e typeName = ofConstruction? typeName false inner := by
  rw [constructed?, ← ofConstruction?_unparen]
  unfold Expr.unaddress at he
  split at he
  · rename_i operand hu
    rw [hu, ofConstruction?, ← ofConstruction?_unparen, he]
    simp
  · rw [he, hi]

/-- A literal of the type, bare or behind `&`, is a construction with the fields of its elements. -/
lemma constructed?_of_unaddress {e : Expr} {typeName : String} {type : TypeExpr}
    {elements : List (Element Expr)} (he : e.unaddress = .composite (some type) elements)
    (ht : type.hasBase typeName = true) :
    constructed? e typeName = some (ofElements elements) := by
  rw [constructed?_of_unaddress_eq he rfl, ofConstruction?, if_pos ht]

end Usage

namespace Block

/-- A direct field of the constructions of a body is the key of a literal of the body. -/
lemma keys_of_hasField_constructions {body : Block} {typeName name : String}
    (hf : (Block.constructions body typeName).hasField name = true) : Block.Keys body name := by
  rw [Block.constructions_eq, Usage.hasField_mergeAll] at hf
  obtain ⟨u, hu, hf⟩ := List.any_eq_true.1 hf
  obtain ⟨value, hv, hu⟩ := List.mem_filterMap.1 hu
  obtain ⟨s, hs, hv⟩ := List.mem_flatMap.1 hv
  obtain ⟨type, elements, hc, _, rfl⟩ := Usage.literal_of_ofConstruction? hu
  obtain ⟨element, he⟩ := Usage.hasField_ofElements.1 hf
  have hsv := (mem_statements.1 hs).trans (Stmt.contains_of_mem_produced hv)
  exact ⟨some type, elements, element, hsv.trans hc, he⟩

/-- The tree of a result holds the accesses to the output variable and the constructions. -/
lemma tree_outputUsage (body : Block) (resultName : Option String) (typeName : String) :
    (Block.outputUsage body resultName typeName).usage.tree =
      ((Block.outputUsage body resultName typeName).var.elim ∅
        (VariableUsage.collect body)).tree.merge (Block.constructions body typeName) := rfl

/-- A direct field that is supplied to the result is selected or is the key of a literal. -/
lemma selects_or_keys_of_hasField_outputUsage {body : Block} {resultName : Option String}
    {typeName name : String}
    (hf : (Block.outputUsage body resultName typeName).usage.tree.hasField name = true) :
    Block.Selects body name ∨ Block.Keys body name := by
  rw [tree_outputUsage, Usage.hasField_merge, Bool.or_eq_true] at hf
  rcases hf with hf | hf
  · left
    cases hv : (Block.outputUsage body resultName typeName).var with
    | none =>
      rw [hv] at hf
      cases hf
    | some var =>
      rw [hv] at hf
      exact VariableUsage.selects_of_hasField_collect hf
  · exact .inr (keys_of_hasField_constructions hf)

/-- The usage of a source is that of its variable, merged with that of a range element if any. -/
lemma sourceUsage_cases (body : Block) (shape : Shape) (var : String) :
    Block.sourceUsage body shape var = VariableUsage.collect body var ∨
      ∃ element, Block.sourceUsage body shape var =
        (VariableUsage.collect body var).merge (VariableUsage.collect body element) := by
  unfold Block.sourceUsage
  simp only
  split
  · exact .inl rfl
  · split
    · exact .inr ⟨_, rfl⟩
    · exact .inl rfl

/-- A direct field that is read of the source is selected in the body. -/
lemma selects_of_hasField_sourceUsage {body : Block} {shape : Shape} {var name : String}
    (hf : (Block.sourceUsage body shape var).tree.hasField name = true) :
    Block.Selects body name := by
  rcases sourceUsage_cases body shape var with e | ⟨element, e⟩
  · rw [e] at hf
    exact VariableUsage.selects_of_hasField_collect hf
  · rw [e, VariableUsage.merge, Usage.hasField_merge, Bool.or_eq_true] at hf
    rcases hf with hf | hf
    · exact VariableUsage.selects_of_hasField_collect hf
    · exact VariableUsage.selects_of_hasField_collect hf

/-- A method that is called on the source is selected in the body. -/
lemma selects_of_mem_methods_sourceUsage {body : Block} {shape : Shape} {var method : String}
    (hm : method ∈ (Block.sourceUsage body shape var).tree.methods) :
    Block.Selects body method := by
  rcases sourceUsage_cases body shape var with e | ⟨element, e⟩
  · rw [e] at hm
    exact VariableUsage.selects_of_mem_methods_collect hm
  · rw [e, VariableUsage.merge, Usage.mem_methods_merge] at hm
    rcases hm with hm | hm
    · exact VariableUsage.selects_of_mem_methods_collect hm
    · exact VariableUsage.selects_of_mem_methods_collect hm

end Block

end FieldAudit
