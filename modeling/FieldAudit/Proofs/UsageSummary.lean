import Mathlib
import FieldAudit.Proofs.Collection
import FieldAudit.Proofs.PositionalLiterals

/-!
# The sets of a usage and its tree

A usage keeps the direct fields and the methods of a variable twice: as sets of names and at the root of
the tree. Every record writes to both, so that they say the same of whatever is collected from a body.
Whether the root is consumed as a unit is said by the tree alone: no access to a variable does it, and a
literal of the destination does it exactly if one of its elements is positional.
-/

namespace FieldAudit

namespace VariableUsage

/-- The sets of names say what the root of the tree says. -/
structure Coherent (u : VariableUsage) : Prop where
  fields : u.tree.fieldNames = u.handled
  methods : u.tree.methods = u.methods

/-- A usage is coherent exactly if the sets and the root of the tree have the same fields and the same
    methods. -/
lemma coherent_iff {u : VariableUsage} :
    u.Coherent ↔ (∀ name, u.tree.hasField name = true ↔ name ∈ u.fields ∨ name ∈ u.ignored) ∧
      ∀ method, method ∈ u.tree.methods ↔ method ∈ u.methods := by
  constructor
  · intro h
    refine ⟨fun name => ?_, fun method => by rw [h.methods]⟩
    rw [← Usage.mem_fieldNames, h.fields, handled, OrderedSet.mem_union]
  · rintro ⟨hf, hm⟩
    refine ⟨?_, OrderedSet.ext_mem hm⟩
    apply OrderedSet.ext_mem
    intro name
    rw [Usage.mem_fieldNames, hf, handled, OrderedSet.mem_union]

/-- The empty usage is coherent. -/
lemma coherent_empty : (∅ : VariableUsage).Coherent := ⟨rfl, rfl⟩

/-- Coherent usages merge to a coherent one. -/
lemma Coherent.merge {u v : VariableUsage} (hu : u.Coherent) (hv : v.Coherent) :
    (u.merge v).Coherent := by
  obtain ⟨hu, hum⟩ := coherent_iff.1 hu
  obtain ⟨hv, hvm⟩ := coherent_iff.1 hv
  refine coherent_iff.2 ⟨fun name => ?_, fun method => ?_⟩
  · simp only [VariableUsage.merge, Usage.hasField_merge, Bool.or_eq_true, hu, hv,
      OrderedSet.mem_union]
    exact or_or_or_comm
  · simp only [VariableUsage.merge, Usage.mem_methods_merge, hum, hvm, OrderedSet.mem_union]

/-- A list of coherent usages merges to a coherent one. -/
lemma coherent_mergeAll {us : List VariableUsage} (h : ∀ u ∈ us, u.Coherent) :
    (mergeAll us).Coherent := by
  induction us with
  | nil => exact coherent_empty
  | cons u us ih =>
    obtain ⟨hu, hus⟩ := List.forall_mem_cons.1 h
    exact hu.merge (ih hus)

/-! ## One record -/

/-- What is recorded below a field is coherent with sets that name this field only. -/
lemma coherent_below {fields ignored : NameSet} {field : String}
    (h : ∀ name, name ∈ fields ∨ name ∈ ignored ↔ name = field) (rest : Path) (t : Usage) :
    ({ fields, ignored, tree := .below (field :: rest) t } : VariableUsage).Coherent := by
  refine coherent_iff.2 ⟨fun name => ?_, fun method => ?_⟩
  · rw [Usage.hasField_below_cons, beq_iff_eq, h, eq_comm]
  · exact iff_of_false (Usage.not_mem_methods_below_cons method field rest t)
      (OrderedSet.not_mem_empty method)

/-- The call of a method is recorded coherently. -/
lemma coherent_call (method : String) :
    ({ methods := {method}, tree := .call method } : VariableUsage).Coherent := by
  refine coherent_iff.2 ⟨fun name => ?_, fun m => ?_⟩
  · simp
  · rw [Usage.methods_call]

/-- Every kind of access to a path writes to the sets what it writes to the root of the tree, and none
    of them consumes the variable itself. -/
lemma coherent_ofAccess {path : Path} (hp : path ≠ []) (access : Access) :
    (ofAccess path access).Coherent ∧ (ofAccess path access).tree.isWhole = false := by
  obtain ⟨field, rest, rfl⟩ := List.exists_cons_of_ne_nil hp
  cases access with
  | read => exact ⟨coherent_below (by simp) rest _, Usage.isWhole_below_cons _ _ _⟩
  | ignored => exact ⟨coherent_below (by simp) rest _, Usage.isWhole_below_cons _ _ _⟩
  | assigned value => exact ⟨coherent_below (by simp) rest _, Usage.isWhole_below_cons _ _ _⟩
  | called =>
    -- a method of the variable itself, or a method of a field below it
    simp only [ofAccess, List.getLast?_eq_some_getLast hp]
    split
    · exact ⟨coherent_call _, rfl⟩
    · exact ⟨coherent_below (by simp) _ _, Usage.isWhole_below_cons _ _ _⟩

/-- What a visit records is coherent, and the variable itself is not consumed by it. -/
lemma coherent_ofVisit (var : String) (v : Visit) :
    (ofVisit var v).Coherent ∧ (ofVisit var v).tree.isWhole = false := by
  rcases ofVisit_cases var v with e | ⟨base, field, path, _, hc, e⟩
  · rw [e]
    exact ⟨coherent_empty, rfl⟩
  · rw [e]
    exact coherent_ofAccess (Expr.chain?_selector_ne_nil hc) _

/-! ## A whole body -/

/-- The usage of a variable in a body is coherent. -/
lemma coherent_collect (body : Block) (var : String) : (collect body var).Coherent := by
  rw [collect_eq_visits]
  apply coherent_mergeAll
  intro u hu
  obtain ⟨v, _, rfl⟩ := List.mem_map.1 hu
  exact (coherent_ofVisit var v).1

/-- No access consumes the variable itself as a unit. -/
lemma isWhole_collect (body : Block) (var : String) : (collect body var).tree.isWhole = false := by
  rw [tree_collect, Usage.isWhole_mergeAll, List.any_map, List.any_eq_false]
  intro v _
  simp only [Function.comp_apply, (coherent_ofVisit var v).2, Bool.false_eq_true, not_false_eq_true]

end VariableUsage

/-! ## Constructions -/

/-- The value of the expression is built on a literal of the named type with these elements: it is the
    literal, bare or behind `&`, or the result of a method that is called on such a value. -/
inductive Expr.BuiltOn (typeName : String) : Expr → List (Element Expr) → Prop where
  | literal {e : Expr} {type : TypeExpr} {elements : List (Element Expr)} :
    e.unaddress = .composite (some type) elements →
    type.hasBase typeName = true →
    BuiltOn typeName e elements
  | method {e callee base : Expr} {args : List Expr} {name : String}
      {elements : List (Element Expr)} :
    e.unaddress = .call callee args →
    callee.unparen = .selector base name →
    BuiltOn typeName base elements →
    BuiltOn typeName e elements

namespace Usage

/-- Parentheses do not matter to what is constructed below a chain of calls. -/
lemma ofReceiver?_unparen (typeName : String) (e : Expr) :
    ofReceiver? typeName e.unparen = ofReceiver? typeName e := by
  induction e using Expr.unparen.induct with
  | case1 inner ih => rw [Expr.unparen, ofReceiver?, ih]
  | case2 e h =>
    rw [Expr.unparen]
    exact h

/-- A value that is built on a literal constructs its elements. -/
lemma constructed?_of_builtOn {typeName : String} {e : Expr} {elements : List (Element Expr)}
    (h : e.BuiltOn typeName elements) : constructed? e typeName = some (ofElements elements) := by
  induction h with
  | literal he ht => exact constructed?_of_unaddress he ht
  | method he hc _ ih =>
    rw [constructed?_of_unaddress_eq he rfl, ofConstruction?, ← ofReceiver?_unparen, hc, ofReceiver?]
    exact ih

mutual

/-- The search for a construction ends at a literal on which the value is built. The expression around
    the one that is searched is the same but for parentheses and the `&` that was passed. -/
lemma builtOn_of_ofConstruction? {typeName : String} {u : Usage} :
    ∀ {address : Bool} {e : Expr} (outer : Expr), ofConstruction? typeName address e = some u →
      outer.unaddress = (if address then e.unaddress else e.unparen) →
      ∃ elements, outer.BuiltOn typeName elements ∧ u = ofElements elements
  | address, .paren inner, outer, h, ho => by
    rw [ofConstruction?] at h
    exact builtOn_of_ofConstruction? outer h ho
  | address, .unary op operand, outer, h, ho => by
    rw [ofConstruction?] at h
    split at h
    · rename_i hop
      obtain ⟨rfl, hop⟩ := Bool.and_eq_true_iff.1 hop
      obtain rfl := beq_iff_eq.1 hop
      exact builtOn_of_ofConstruction? outer h ho
    · cases h
  | address, .composite (some type) elements, outer, h, ho => by
    rw [ofConstruction?] at h
    split at h
    · rename_i ht
      cases h
      have literal : outer.unaddress = .composite (some type) elements := by
        cases address <;> exact ho
      exact ⟨elements, .literal literal ht, rfl⟩
    · cases h
  | address, .call callee args, outer, h, ho => by
    rw [ofConstruction?] at h
    obtain ⟨base, name, elements, hc, hb, hu⟩ := builtOn_of_ofReceiver? h
    have call : outer.unaddress = .call callee args := by
      cases address <;> exact ho
    exact ⟨elements, .method call hc hb, hu⟩
  | address, .composite none elements, outer, h, _ | address, .ident name, outer, h, _
  | address, .selector base field, outer, h, _ | address, .index base operands, outer, h, _
  | address, .binary op left right, outer, h, _ | address, .funcLit body, outer, h, _
  | address, .assert base type, outer, h, _ | address, .type type, outer, h, _
  | address, .literal text, outer, h, _ | address, .other, outer, h, _ => by
    simp [ofConstruction?] at h

/-- What a method is called on is built on a literal. -/
lemma builtOn_of_ofReceiver? {typeName : String} {u : Usage} :
    ∀ {e : Expr}, ofReceiver? typeName e = some u →
      ∃ base name elements, e.unparen = .selector base name ∧
        base.BuiltOn typeName elements ∧ u = ofElements elements
  | .paren inner, h => by
    rw [ofReceiver?] at h
    obtain ⟨base, name, elements, hc, rest⟩ := builtOn_of_ofReceiver? h
    exact ⟨base, name, elements, hc, rest⟩
  | .selector base field, h => by
    rw [ofReceiver?] at h
    obtain ⟨elements, hb, hu⟩ := builtOn_of_ofConstruction? base h rfl
    exact ⟨base, field, elements, rfl, hb, hu⟩
  | .ident name, h | .call callee args, h | .index base operands, h | .unary op operand, h
  | .binary op left right, h | .composite type elements, h | .funcLit body, h
  | .assert base type, h | .type type, h | .literal text, h | .other, h => by
    simp [ofReceiver?] at h

end

/-- The elements of a literal call no method on the value that they are part of. -/
lemma not_mem_methods_ofElements (elements : List (Element Expr)) (method : String) :
    method ∉ (ofElements elements).methods := by
  induction elements with
  | nil => exact not_mem_methods_empty method
  | cons element elements ih =>
    rw [ofElements, mem_methods_merge]
    rintro (h | h)
    · cases element with
      | positional value => exact OrderedSet.not_mem_empty method h
      | field name value => exact not_mem_methods_below_cons method name [] _ h
      | keyed key value => exact not_mem_methods_empty method h
    · exact ih h

/-- The values that construct something are those built on a literal. -/
lemma constructed?_eq_some {typeName : String} {e : Expr} {u : Usage} :
    constructed? e typeName = some u ↔
      ∃ elements, e.BuiltOn typeName elements ∧ u = ofElements elements := by
  constructor
  · intro h
    exact builtOn_of_ofConstruction? e h rfl
  · rintro ⟨elements, hb, rfl⟩
    exact constructed?_of_builtOn hb

end Usage

/-- Some statement of the body hands over a value that is built on a literal of the named type with a
    positional element. -/
def Block.ProducesPositional (body : Block) (typeName : String) : Prop :=
  ∃ s value elements element, Block.Contains body (.stmt s) ∧ value ∈ s.produced ∧
    value.BuiltOn typeName elements ∧ .positional element ∈ elements

namespace Block

/-- The constructions are whole exactly if a literal without keys is produced. -/
lemma isWhole_constructions {body : Block} {typeName : String} :
    (Block.constructions body typeName).isWhole = true ↔ Block.ProducesPositional body typeName := by
  rw [Block.constructions_eq, Usage.isWhole_mergeAll, List.any_eq_true]
  constructor
  · rintro ⟨u, hu, hw⟩
    obtain ⟨value, hv, hu⟩ := List.mem_filterMap.1 hu
    obtain ⟨s, hs, hv⟩ := List.mem_flatMap.1 hv
    obtain ⟨elements, hb, rfl⟩ := Usage.constructed?_eq_some.1 hu
    obtain ⟨element, he⟩ := Usage.isWhole_ofElements.1 hw
    exact ⟨s, value, elements, element, mem_statements.1 hs, hv, hb, he⟩
  · rintro ⟨s, value, elements, element, hs, hv, hb, he⟩
    refine ⟨Usage.ofElements elements, ?_, Usage.isWhole_ofElements.2 ⟨element, he⟩⟩
    rw [List.mem_filterMap]
    exact ⟨value, List.mem_flatMap.2 ⟨s, mem_statements.2 hs, hv⟩, Usage.constructed?_of_builtOn hb⟩

/-- A literal calls no method on what it builds. -/
lemma not_mem_methods_constructions (body : Block) (typeName method : String) :
    method ∉ (Block.constructions body typeName).methods := by
  rw [Block.constructions_eq, Usage.mem_methods_mergeAll]
  rintro ⟨u, hu, hm⟩
  obtain ⟨value, _, hu⟩ := List.mem_filterMap.1 hu
  obtain ⟨elements, _, rfl⟩ := Usage.constructed?_eq_some.1 hu
  exact Usage.not_mem_methods_ofElements elements method hm

/-- The usage of the source is coherent. -/
lemma coherent_sourceUsage (body : Block) (shape : Shape) (var : String) :
    (Block.sourceUsage body shape var).Coherent := by
  rcases sourceUsage_cases body shape var with e | ⟨element, e⟩
  · rw [e]
    exact VariableUsage.coherent_collect body var
  · rw [e]
    exact (VariableUsage.coherent_collect body var).merge (VariableUsage.coherent_collect body element)

/-- The output variable, if there is one, is accessed without being consumed itself. -/
lemma coherent_accessed (body : Block) (var : Option String) :
    (var.elim ∅ (VariableUsage.collect body)).Coherent ∧
      (var.elim ∅ (VariableUsage.collect body)).tree.isWhole = false := by
  cases var with
  | none => exact ⟨VariableUsage.coherent_empty, rfl⟩
  | some x => exact ⟨VariableUsage.coherent_collect body x, VariableUsage.isWhole_collect body x⟩

/-- The usage of the output is coherent. -/
lemma coherent_outputUsage (body : Block) (resultName : Option String) (typeName : String) :
    (Block.outputUsage body resultName typeName).usage.Coherent := by
  have built : ({ fields := (Block.constructions body typeName).fieldNames
                  tree := Block.constructions body typeName } : VariableUsage).Coherent := by
    refine VariableUsage.coherent_iff.2 ⟨fun name => ?_, fun method => ?_⟩
    · rw [Usage.mem_fieldNames]
      simp
    · exact iff_of_false (not_mem_methods_constructions body typeName method)
        (OrderedSet.not_mem_empty method)
  exact (coherent_accessed body _).1.merge built

/-- The output is written as a unit exactly if a literal without keys is produced. -/
lemma isWhole_outputUsage {body : Block} {resultName : Option String} {typeName : String} :
    (Block.outputUsage body resultName typeName).usage.tree.isWhole = true ↔
      Block.ProducesPositional body typeName := by
  rw [tree_outputUsage, Usage.isWhole_merge, (coherent_accessed body _).2, Bool.false_or,
    isWhole_constructions]

end Block

/-- Whatever is collected from a body, the fields and the methods at the root of the tree are those in
    the sets: for a variable, for a source with the elements of a range over it, and for a result. The
    root is never consumed as a unit by accesses to a variable, and for a result exactly if a value of
    the destination type is built on a literal with a positional element. -/
theorem usage_coherent (body : Block) :
    (∀ var, (VariableUsage.collect body var).Coherent ∧
      (VariableUsage.collect body var).tree.isWhole = false) ∧
    (∀ shape var, (Block.sourceUsage body shape var).Coherent) ∧
    ∀ resultName typeName,
      (Block.outputUsage body resultName typeName).usage.Coherent ∧
      ((Block.outputUsage body resultName typeName).usage.tree.isWhole = true ↔
        Block.ProducesPositional body typeName) := by
  refine ⟨fun var => ?_, fun shape var => ?_, fun resultName typeName => ?_⟩
  · exact ⟨VariableUsage.coherent_collect body var, VariableUsage.isWhole_collect body var⟩
  · exact Block.coherent_sourceUsage body shape var
  · exact ⟨Block.coherent_outputUsage body resultName typeName, Block.isWhole_outputUsage⟩

end FieldAudit
