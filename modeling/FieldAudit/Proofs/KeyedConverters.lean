import Mathlib
import FieldAudit.Proofs.Collection
import FieldAudit.Proofs.Judgement
import FieldAudit.Proofs.MissingFields

/-!
# The exact report on a keyed converter

The main form of a converter returns a literal of the destination whose elements stand under field
names and read one field of the source each. For two plain structs of related names the report on
such a function is exact: the exported fields of the source that no element reads, and the exported
fields of the destination under which no element stands, in the order of declaration.
-/

namespace FieldAudit

section candidates

/-- A declared field as the audit sees it, if it is not reached through an embedded struct. -/
def FieldDef.own (field : FieldDef Ty) : FieldInfo :=
  { name := field.name, exported := field.exported, tags := field.tags
    deprecated := field.deprecated, type := field.type }

/-- The type itself, or the pointer to it. -/
def TypeKey.single (key : TypeKey) (pointer : Bool) : Ty :=
  if pointer then .pointer (.named key) else .named key

/-- The shape of a type itself or of the pointer to it. -/
def Shape.single (pointer : Bool) : Shape := if pointer then .pointer else .value

/-- A single value has a single shape, behind a pointer or not. -/
@[simp] lemma Shape.isSingle_single (pointer : Bool) : (Shape.single pointer).isSingle = true := by
  cases pointer <;> rfl

variable {table : TypeTable} {key : TypeKey} {fields : List (FieldDef Ty)}

/-- Without embedded fields there is nothing to flatten. -/
lemma TypeTable.flatten_of_plain (depth : Nat) (plain : ∀ f ∈ fields, f.embedded = false) :
    table.flatten depth none fields = fields.map FieldDef.own := by
  unfold TypeTable.flatten
  induction fields with
  | nil => rfl
  | cons f fields ih =>
    have hf := plain f List.mem_cons_self
    rw [List.flatMap_cons, ih fun g hg => plain g (List.mem_cons_of_mem _ hg)]
    cases depth with
    | zero => rfl
    | succ depth => simp [hf, FieldDef.own]

/-- A plain struct and the pointer to it are candidates with the declared fields. -/
lemma TypeTable.candidate?_single (pointer : Bool) (hk : table.structFields? key = some fields)
    (plain : ∀ f ∈ fields, f.embedded = false) :
    table.candidate? (key.single pointer) =
      some { name := key.name, shape := .single pointer, fields := fields.map FieldDef.own
             identity := table.identity key } := by
  have hf := @flatten_of_plain table fields maxEmbedding plain
  cases pointer with
  | false => simp [candidate?, TypeKey.single, unwrap, unwrapContainer, hk, Shape.single, hf]
  | true => simp [candidate?, TypeKey.single, unwrap, unwrapContainer, hk, Shape.single, hf]

end candidates

/-- An element of a literal that stands under a key and reads one field of a variable, as it is or
    through a call. -/
structure KeyedRead where
  key : String
  read : String
  through : Option String := none

namespace KeyedRead

/-- The value `x.read` or `g(x.read)`. -/
def value (x : String) (k : KeyedRead) : Expr :=
  match k.through with
  | none => .selector (.ident x) k.read
  | some g => .call (.ident g) [.selector (.ident x) k.read]

/-- The element `key: x.read` or `key: g(x.read)`. -/
def element (x : String) (k : KeyedRead) : Element Expr := .field k.key (k.value x)

/-- The literal with these elements, bare or behind `&`. -/
def literal (type : TypeExpr) (address : Bool) (x : String) (ks : List KeyedRead) : Expr :=
  if address then .unary "&" (.composite (some type) (ks.map (element x)))
  else .composite (some type) (ks.map (element x))

/-- A read is no literal, so the element consumes its field as a unit. -/
lemma ofElement_element (x : String) (k : KeyedRead) :
    Usage.ofElement (k.element x) = .below [k.key] .unit := by
  obtain ⟨key, read, through⟩ := k
  cases through with
  | none => rfl
  | some g => rfl

/-- The elements consume their keys. -/
lemma ofElements_map (x : String) (ks : List KeyedRead) :
    Usage.ofElements (ks.map (element x)) = .flat (ks.map key) := by
  induction ks with
  | nil => rfl
  | cons k ks ih =>
    rw [List.map_cons, Usage.ofElements, ofElement_element, ih]
    rfl

/-- The parts of the elements are their values. -/
lemma flatMap_elementParts (x : String) (ks : List KeyedRead) :
    (ks.map (element x)).flatMap Node.elementParts =
      ks.map fun k => (Role.part, Node.expr (k.value x)) := by
  induction ks with
  | nil => rfl
  | cons k ks ih =>
    rw [List.map_cons, List.flatMap_cons, ih]
    rfl

/-- An identifier alone records nothing. -/
lemma collectFrom_ident (x name : String) (frames : List Frame) :
    VariableUsage.collectFrom x frames (.expr (.ident name)) = ∅ :=
  VariableUsage.collectFrom_of_not_selector rfl x frames

/-- A read in a plain part consumes the field that it reads. -/
lemma tree_collectFrom_selector (x name : String) (parent : Node) (frames : List Frame) :
    (VariableUsage.collectFrom x (⟨parent, .part⟩ :: frames)
      (.expr (.selector (.ident x) name))).tree = .below [name] .unit := by
  have hr : VariableUsage.ofVisit x ⟨.expr (.selector (.ident x) name), ⟨parent, .part⟩ :: frames⟩ =
      VariableUsage.ofAccess [name] .read := by
    -- a plain part neither goes on with the chain nor calls or assigns it
    simp [VariableUsage.ofVisit, chainGoesOn, Expr.chain?, Access.ofFrames]
  rw [VariableUsage.collectFrom_eq, hr]
  simp only [Node.children, List.map_cons, List.map_nil, collectFrom_ident,
    VariableUsage.mergeAll_cons, VariableUsage.mergeAll_nil, VariableUsage.merge_empty]
  rfl

/-- The value of an element consumes the field that it reads, as it is or through a call. -/
lemma tree_collectFrom_value (x : String) (k : KeyedRead) (parent : Node) (frames : List Frame) :
    (VariableUsage.collectFrom x (⟨parent, .part⟩ :: frames) (.expr (k.value x))).tree =
      .below [k.read] .unit := by
  obtain ⟨key, read, through⟩ := k
  cases through with
  | none => exact tree_collectFrom_selector x read parent frames
  | some g =>
    rw [show value x ⟨key, read, some g⟩ = .call (.ident g) [.selector (.ident x) read] from rfl,
      VariableUsage.collectFrom_of_not_selector rfl]
    simp only [Node.children, Node.exprParts, List.map_cons, List.map_nil, collectFrom_ident,
      VariableUsage.mergeAll_cons, VariableUsage.mergeAll_nil, VariableUsage.merge_empty,
      VariableUsage.empty_merge, tree_collectFrom_selector]

/-- The elements of a literal consume the fields that they read. -/
lemma tree_collectFrom_composite (x : String) (ks : List KeyedRead) (type : Option TypeExpr)
    (frames : List Frame) :
    (VariableUsage.collectFrom x frames (.expr (.composite type (ks.map (element x))))).tree =
      .flat (ks.map read) := by
  rw [VariableUsage.collectFrom_of_not_selector rfl, Node.children, flatMap_elementParts,
    VariableUsage.tree_mergeAll, List.map_map, List.map_map, Usage.flat, List.map_map]
  congr 1
  refine List.map_congr_left fun k _ => ?_
  exact tree_collectFrom_value x k _ frames

/-- A function that returns the literal consumes the fields that its elements read. -/
lemma tree_collect_literal (x : String) (ks : List KeyedRead) (type : TypeExpr) (address : Bool) :
    (VariableUsage.collect [.ret [literal type address x ks]] x).tree = .flat (ks.map read) := by
  rw [VariableUsage.collect_eq, List.map_singleton, VariableUsage.mergeAll_cons,
    VariableUsage.mergeAll_nil, VariableUsage.merge_empty,
    VariableUsage.collectFrom_of_not_selector rfl]
  simp only [Node.children, Node.exprParts, List.map_cons, List.map_nil,
    VariableUsage.mergeAll_cons, VariableUsage.mergeAll_nil, VariableUsage.merge_empty]
  cases address with
  | false => exact tree_collectFrom_composite x ks _ _
  | true =>
    rw [show literal type true x ks = .unary "&" (.composite (some type) (ks.map (element x)))
      from rfl, VariableUsage.collectFrom_of_not_selector rfl]
    simp only [Node.children, List.map_cons, List.map_nil, VariableUsage.mergeAll_cons,
      VariableUsage.mergeAll_nil, VariableUsage.merge_empty]
    exact tree_collectFrom_composite x ks _ _

/-- There is no statement in a read. -/
lemma not_contains_stmt_selector (x name : String) (s : Stmt) :
    ¬ (Node.expr (.selector (.ident x) name)).Contains (.stmt s) := by
  refine Node.not_contains_stmt fun p hp => ?_
  obtain rfl := List.mem_singleton.1 hp
  exact Node.not_contains_stmt nofun

/-- There is no statement in the value of an element. -/
lemma not_contains_stmt_value (x : String) (k : KeyedRead) (s : Stmt) :
    ¬ (Node.expr (k.value x)).Contains (.stmt s) := by
  obtain ⟨key, read, through⟩ := k
  cases through with
  | none => exact not_contains_stmt_selector x read s
  | some g =>
    refine Node.not_contains_stmt fun p hp => ?_
    rcases List.mem_cons.1 hp with rfl | hp
    · exact Node.not_contains_stmt nofun
    · obtain rfl := List.mem_singleton.1 hp
      exact not_contains_stmt_selector x read s

/-- There is no statement in the literal. -/
lemma not_contains_stmt_literal (x : String) (ks : List KeyedRead) (type : TypeExpr)
    (address : Bool) (s : Stmt) : ¬ (Node.expr (literal type address x ks)).Contains (.stmt s) := by
  have hc : ¬ (Node.expr (.composite (some type) (ks.map (element x)))).Contains (.stmt s) := by
    refine Node.not_contains_stmt fun p hp => ?_
    rw [Node.children, flatMap_elementParts] at hp
    obtain ⟨k, _, rfl⟩ := List.mem_map.1 hp
    exact not_contains_stmt_value x k s
  cases address with
  | false => exact hc
  | true =>
    refine Node.not_contains_stmt fun p hp => ?_
    obtain rfl := List.mem_singleton.1 hp
    exact hc

/-- The only statement of the body is the one that returns the literal. -/
lemma mem_statements_literal (x : String) (ks : List KeyedRead) (type : TypeExpr) (address : Bool)
    (s : Stmt) :
    s ∈ Block.statements [.ret [literal type address x ks]] ↔
      s = .ret [literal type address x ks] := by
  rw [Block.mem_statements]
  constructor
  · rintro ⟨t, ht, h⟩
    obtain rfl := List.mem_singleton.1 ht
    cases h with
    | refl => rfl
    | part hp h =>
      cases List.mem_singleton.1 hp
      exact absurd h (not_contains_stmt_literal x ks type address s)
  · rintro rfl
    exact ⟨_, List.mem_singleton_self _, .refl _⟩

/-- The literal itself is what the statement hands over. -/
lemma produced_ret_literal (x : String) (ks : List KeyedRead) (type : TypeExpr) (address : Bool) :
    (Stmt.ret [literal type address x ks]).produced = [literal type address x ks] := by
  cases address <;> rfl

/-- A function that returns the literal supplies the keys of its elements and nothing else. -/
lemma tree_outputUsage_literal {typeName : String} (x : String) (ks : List KeyedRead)
    {type : TypeExpr} (address : Bool) (ht : type.hasBase typeName = true) :
    (Block.outputUsage [.ret [literal type address x ks]] none typeName).usage.tree =
      .flat (ks.map key) := by
  -- no variable is bound to the result, so the literal alone supplies it
  have hv : Block.outputVar? [.ret [literal type address x ks]] typeName = none := by
    have h : (Block.statements [.ret [literal type address x ks]]).findSome?
        (Stmt.boundTo? typeName) = none := by
      rw [List.findSome?_eq_none_iff]
      intro s hs
      rw [(mem_statements_literal x ks type address s).1 hs]
      rfl
    rw [Block.outputVar?_eq, h]
    rfl
  have hu : (literal type address x ks).unaddress = .composite (some type) (ks.map (element x)) := by
    cases address <;> rfl
  have hc : Block.constructions [.ret [literal type address x ks]] typeName =
      .flat (ks.map key) := by
    rw [Block.constructions_eq, ← Usage.merge_empty (.flat _), ← ofElements_map x,
      ← Usage.mergeAll_nil, ← Usage.mergeAll_cons]
    apply Usage.mergeAll_congr
    intro u
    simp only [List.mem_filterMap, List.mem_flatMap, mem_statements_literal, exists_eq_left,
      produced_ret_literal, List.mem_singleton, Usage.constructed?_of_unaddress hu ht,
      Option.some.injEq, eq_comm]
  rw [Block.tree_outputUsage, hc, show (Block.outputUsage [.ret [literal type address x ks]] none
    typeName).var = none from hv]
  exact Usage.empty_merge _

end KeyedRead

section report

variable {table : TypeTable}

/-- By default only unexported fields are exempt, apart from those that cannot be serialised. -/
lemma FieldInfo.isExempt_default {field : FieldInfo} (counterpart : List FieldInfo)
    (hs : field.type.isNonSerializable = false) :
    field.isExempt {} counterpart = !field.exported := by
  simp [isExempt, exemptByType, hs, Pattern.matchesAny, Pattern.validOnes]

/-- By default a field of its own is handled by a flat usage exactly if it is one of its names. -/
lemma FieldInfo.isHandled_flat {field : FieldInfo} (names : List String) (side : Side)
    (ho : field.promotedFrom = none) :
    field.isHandled {} (.flat names) side = names.contains field.name := by
  have off : ¬ ({} : Settings).minSimilarity > 0 := by decide
  rw [Bool.eq_iff_iff, List.contains_iff_mem, ← Usage.hasField_flat]
  constructor
  · intro h
    -- a field of its own has no embedding, and a flat usage has no calls
    rcases handled_cases off h with h | ⟨origin, e, _⟩ | ⟨_, h⟩
    · exact h
    · rw [ho] at e
      cases e
    · exact absurd h (Usage.not_mem_methods_flat names _)
  · intro h
    simp [isHandled, h]

/-- The report on the fields of a plain struct of which only these names are used: the other exported
    fields, in the order of declaration. -/
lemma missingFields_flat (table : TypeTable) {fields : List (FieldDef Ty)}
    (plain : ∀ f ∈ fields, f.type.isNonSerializable = false) (side : Side) (names : List String)
    (counterpart : List FieldInfo) :
    missingFields {} table side (.flat names) (fields.map FieldDef.own) counterpart =
      (fields.filter fun f => f.exported && !names.contains f.name).map (·.name) := by
  rw [missingFields_of_flat (Usage.partOf?_flat names), List.filter_map, List.map_map]
  have hf : fields.filter ((fun field : FieldInfo => !field.isExempt {} counterpart &&
      !field.isHandled {} (.flat names) side) ∘ FieldDef.own) =
      fields.filter fun f => f.exported && !names.contains f.name := by
    refine List.filter_congr fun f hf => ?_
    rw [Function.comp_apply, FieldInfo.isExempt_default counterpart (plain f hf),
      FieldInfo.isHandled_flat names side rfl, Bool.not_not]
    rfl
  rw [hf]
  rfl

/-- The source and the destination of a function between two structs. -/
def singlePair (table : TypeTable) (decl : FuncDecl) (x : String) (kS kD : TypeKey) (pS pD : Bool)
    (fS fD : List (FieldDef Ty)) : ConverterPair :=
  .of decl
    ⟨0, some x, ⟨kS.name, .single pS, fS.map FieldDef.own, table.identity kS⟩⟩
    ⟨0, none, ⟨kD.name, .single pD, fD.map FieldDef.own, table.identity kD⟩⟩

variable {decl : FuncDecl} {kS kD : TypeKey} {fS fD : List (FieldDef Ty)} {x : String}
  {tS tD : TypeExpr}

/-- A function between two different structs of related names is a converter between them. -/
lemma selectPair_single (hS : table.structFields? kS = some fS)
    (hD : table.structFields? kD = some fD) (eS : ∀ f ∈ fS, f.embedded = false)
    (eD : ∀ f ∈ fD, f.embedded = false) (distinct : table.identity kS ≠ table.identity kD)
    (related : namesRelated kS.name kD.name = true) (hx : x ≠ "_") (pS pD : Bool)
    (hp : decl.params = [⟨some x, tS⟩]) (hr : decl.results = [⟨none, tD⟩]) :
    selectPair {} table decl ⟨[kS.single pS], [kD.single pD]⟩ =
      .ok (singlePair table decl x kS kD pS pD fS fD) := by
  have sources : candidateParams table decl.params [kS.single pS] =
      [⟨0, some x, ⟨kS.name, .single pS, fS.map FieldDef.own, table.identity kS⟩⟩] := by
    simp [candidateParams, hp, TypeTable.candidate?_single pS hS eS, Option.filter, hx]
  have dests : candidateParams table decl.results [kD.single pD] =
      [⟨0, none, ⟨kD.name, .single pD, fD.map FieldDef.own, table.identity kD⟩⟩] := by
    simp [candidateParams, hr, TypeTable.candidate?_single pD hD eD]
  have compatible : Shape.compatible {} (.single pS) (.single pD) = true := by
    cases pS <;> cases pD <;> rfl
  have hc : classify {} table decl [kS.single pS] [kD.single pD] =
      some (singlePair table decl x kS kD pS pD fS fD) := by
    simp [classify, sources, dests, qualifies, distinct, typeNamesMatch, related, compatible,
      singlePair]
  rw [selectPair, hc]

/-- A function that returns a keyed literal of its destination is reported exactly for the exported
    fields of the source that it does not read and those of the destination that it does not set. -/
theorem judge_keyed_literal (hS : table.structFields? kS = some fS)
    (hD : table.structFields? kD = some fD)
    (plain : ∀ f ∈ fS ++ fD, f.embedded = false ∧ f.type.isNonSerializable = false)
    (distinct : table.identity kS ≠ table.identity kD)
    (related : namesRelated kS.name kD.name = true) (hx : x ≠ "_") (pS pD address : Bool)
    (package : Option String) (ks : List KeyedRead)
    (hp : decl.params = [⟨some x, tS⟩]) (hr : decl.results = [⟨none, tD⟩])
    (hb : decl.body =
      some [.ret [KeyedRead.literal (.named package kD.name) address x ks]]) :
    ∃ v, judge {} table decl ⟨[kS.single pS], [kD.single pD]⟩ = .ok v ∧
      v.missingSource =
        (fS.filter fun f => f.exported && !(ks.map (·.read)).contains f.name).map
          (fun f => x ++ "." ++ f.name) ∧
      v.missingDest =
        (fD.filter fun f => f.exported && !(ks.map (·.key)).contains f.name).map (·.name) ∧
      v.kind = { conversion := .ofShapes (.single pS) (.single pD), method := decl.isMethod } ∧
      v.delegating = false ∧
      (v.valid = true ↔ v.missingSource = [] ∧ v.missingDest = []) := by
  have eS f (hf : f ∈ fS) := plain f (List.mem_append_left _ hf)
  have eD f (hf : f ∈ fD) := plain f (List.mem_append_right _ hf)
  have hs := selectPair_single hS hD (fun f hf => (eS f hf).1) (fun f hf => (eD f hf).1) distinct
    related hx pS pD hp hr
  have hd : Block.isDelegating [.ret [KeyedRead.literal (.named package kD.name) address x ks]]
      (.single pS) (.single pD) x = false := by
    cases pS <;> rfl
  have source : (Block.sourceUsage [.ret [KeyedRead.literal (.named package kD.name) address x ks]]
      (.single pS) x).tree = .flat (ks.map (·.read)) := by
    rw [Block.sourceUsage, if_pos (Shape.isSingle_single pS)]
    exact KeyedRead.tree_collect_literal x ks _ address
  have base : (TypeExpr.named package kD.name).hasBase kD.name = true := by
    simp [TypeExpr.hasBase, TypeExpr.baseName?, sameName]
  have dest := KeyedRead.tree_outputUsage_literal x ks address base
  refine ⟨_, judge_of_body hs rfl hb hd, ?_, ?_, rfl, rfl, judgeBody_valid⟩
  · have h := missingFields_flat table (fun f hf => (eS f hf).2) .source (ks.map (·.read))
      (fD.map FieldDef.own)
    rw [← source] at h
    exact (congrArg (List.map fun path => x ++ "." ++ path) h).trans (List.map_map ..)
  · have h := missingFields_flat table (fun f hf => (eD f hf).2) .destination
      (ks.map (·.key)) (fS.map FieldDef.own)
    rw [← dest] at h
    exact h

end report

/-- The elements `ID: u.ID` and `Label: string(u.ID)`. -/
def Sample.reads : List KeyedRead := [⟨"ID", "ID", none⟩, ⟨"Label", "ID", some "string"⟩]

/-- The sample function that returns these elements leaves out one field on each side. -/
theorem judge_keyed_literal_sample :
    ∃ v, judge {} Sample.table
        (Sample.toDTO [.ret [KeyedRead.literal (.named none "UserDTO") false "u" Sample.reads]])
        Sample.sig = .ok v ∧
      v.missingSource = ["u.Name"] ∧ v.missingDest = ["Name"] ∧ v.valid = false := by
  obtain ⟨v, hv, hs, hd, _, _, valid⟩ := @judge_keyed_literal Sample.table
    (Sample.toDTO [.ret [KeyedRead.literal (.named none "UserDTO") false "u" Sample.reads]])
    ⟨"", "User"⟩ ⟨"", "UserDTO"⟩ _ _ "u" _ _ rfl rfl (by decide) (by decide) (by decide)
    (by decide) false false false none Sample.reads rfl rfl rfl
  have es : v.missingSource = ["u.Name"] := hs.trans (by decide)
  refine ⟨v, hv, es, hd.trans (by decide), ?_⟩
  rw [Bool.eq_false_iff]
  intro h
  rw [(valid.1 h).1] at es
  cases es

end FieldAudit
