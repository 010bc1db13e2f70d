import Mathlib
import FieldAudit.Proofs.Collection
import FieldAudit.Proofs.Judgement
import FieldAudit.Proofs.Renaming

/-!
# Names of variables do not matter

Every collector compares identifiers with each other, with the blank identifier, or with one of the
two built-in functions `append` and `new`; what it records are fields and methods. So a change of
names that keeps different names different, and leaves these three alone, changes no record. The one
identifier that stands for a type is the argument of `new`, which is compared with the name of the
destination. A verdict changes only in the names of the variables before its missing paths.
-/

namespace FieldAudit

/-- A change of names that keeps different names different, and leaves the blank identifier and the
    built-in functions alone. -/
structure IsRenaming (σ : String → String) : Prop where
  injective : Function.Injective σ
  blank : σ "_" = "_"
  append : σ "append" = "append"
  new : σ "new" = "new"

namespace IsRenaming

variable {σ : String → String} (hσ : IsRenaming σ)

include hσ

/-- Only a name that is left alone becomes that name. -/
lemma eq_iff {name fixed : String} (h : σ fixed = fixed) : σ name = fixed ↔ name = fixed := by
  conv_lhs => rw [← h]
  exact hσ.injective.eq_iff

/-- Renaming keeps the blank name apart from the others. -/
lemma filter_blank (o : Option String) :
    (o.map σ).filter (· != "_") = (o.filter (· != "_")).map σ := by
  have h : (· != "_") ∘ σ = (· != "_") := by
    funext name
    rw [Bool.eq_iff_iff]
    simp [hσ.eq_iff hσ.blank]
  rw [Option.filter_map, h]

end IsRenaming

/-! ## Views of expressions -/

namespace Expr

variable (σ : String → String)

/-- The name of a renamed expression is the new name. -/
@[simp] lemma ident?_rename (e : Expr) : (e.rename σ).ident? = e.ident?.map σ := by
  cases e <;> rfl

/-- Inside the parentheses of a renamed expression is the renamed inside. -/
@[simp] lemma unparen_rename (e : Expr) : (e.rename σ).unparen = e.unparen.rename σ := by
  induction e using unparen.induct with
  | case1 inner ih => rw [rename, unparen, unparen, ih]
  | case2 e h =>
    cases e with
    | paren inner => exact absurd rfl (h inner)
    | _ => rfl

/-- What is inside a renamed expression is the renamed inside. -/
@[simp] lemma core_rename (e : Expr) : (e.rename σ).core = e.core.rename σ := by
  induction e using core.induct with
  | case1 inner ih => rw [rename, core, core, ih]
  | case2 op operand hop ih => rw [rename, core, core, if_pos hop, if_pos hop, ih]
  | case3 op operand hop => rw [rename, core, core, if_neg hop, if_neg hop, rename]
  | case4 e hp hu =>
    cases e with
    | paren inner => exact absurd rfl (hp inner)
    | unary op operand => exact absurd rfl (hu op operand)
    | _ => rfl

/-- A renamed expression is a call exactly if the old one is. -/
@[simp] lemma isCall_rename (e : Expr) : (e.rename σ).isCall = e.isCall := by
  rw [isCall, isCall, core_rename]
  cases e.core <;> rfl

/-- Behind the address of a renamed expression is the renamed value. -/
@[simp] lemma unaddress_rename (e : Expr) : (e.rename σ).unaddress = e.unaddress.rename σ := by
  rw [unaddress, unaddress, unparen_rename]
  cases e.unparen with
  | unary op operand =>
    by_cases h : op = "&"
    · subst h
      exact unparen_rename σ operand
    · simp [rename, h]
  | _ => rfl

/-- The chain of a renamed expression has the same path below the renamed root. -/
lemma chain?_rename (e : Expr) :
    (e.rename σ).chain? = e.chain?.map fun p => (σ p.1, p.2) := by
  induction e using chain?.induct with
  | case1 name => rfl
  | case2 base field ih =>
    rw [rename, chain?, chain?, ih, Option.map_map, Option.map_map]
    rfl
  | case3 base operands ih => rw [rename, chain?, chain?, ih]
  | case4 inner ih => rw [rename, chain?, chain?, ih]
  | case5 op operand hop ih => rw [rename, chain?, chain?, if_pos hop, if_pos hop, ih]
  | case6 op operand hop => rw [rename, chain?, chain?, if_neg hop, if_neg hop, Option.map_none]
  | case7 e hi hs hx hp hu =>
    cases e with
    | ident name => exact absurd rfl (hi name)
    | selector base field => exact absurd rfl (hs base field)
    | index base operands => exact absurd rfl (hx base operands)
    | paren inner => exact absurd rfl (hp inner)
    | unary op operand => exact absurd rfl (hu op operand)
    | _ => rfl

end Expr

/-! ## Literals -/

namespace Usage

variable (σ : String → String)

mutual

/-- A literal supplies the same fields after a change of names. -/
lemma ofLiteral?_rename (address : Bool) :
    ∀ e : Expr, ofLiteral? address (e.rename σ) = ofLiteral? address e
  | .paren inner => by
    rw [Expr.rename, ofLiteral?, ofLiteral?, ofLiteral?_rename]
  | .unary op operand => by
    rw [Expr.rename, ofLiteral?, ofLiteral?, ofLiteral?_rename]
  | .composite type elements => by
    rw [Expr.rename, ofLiteral?, ofLiteral?, ofElements_rename]
  | .ident _ | .selector _ _ | .call _ _ | .index _ _ | .binary _ _ _ | .funcLit _ | .assert _ _
  | .type _ | .literal _ | .other => rfl

/-- Renaming does not matter to what the elements of a literal supply. -/
lemma ofElements_rename :
    ∀ elements : List (Element Expr), ofElements (renameElements σ elements) = ofElements elements
  | [] => rfl
  | element :: elements => by
    rw [renameElements, ofElements, ofElements, ofElement_rename, ofElements_rename]

/-- Renaming does not matter to what an element of a literal supplies. -/
lemma ofElement_rename :
    ∀ element : Element Expr, ofElement (renameElement σ element) = ofElement element
  | .positional _ => rfl
  | .field name value => by
    rw [renameElement, ofElement, ofElement, ofLiteral?_rename]
  | .keyed _ _ => rfl

end

/-- Renaming does not matter to how a field is written by a value. -/
@[simp] lemma assignedFrom_rename (e : Expr) : assignedFrom (e.rename σ) = assignedFrom e := by
  rw [assignedFrom, assignedFrom, supplied?, supplied?, ofLiteral?_rename]

mutual

/-- A construction supplies the same fields after a change of names. -/
lemma ofConstruction?_rename (typeName : String) (address : Bool) :
    ∀ e : Expr, ofConstruction? typeName address (e.rename σ) = ofConstruction? typeName address e
  | .paren inner => by
    rw [Expr.rename, ofConstruction?, ofConstruction?, ofConstruction?_rename]
  | .unary op operand => by
    rw [Expr.rename, ofConstruction?, ofConstruction?, ofConstruction?_rename]
  | .composite (some type) elements => by
    rw [Expr.rename, ofConstruction?, ofConstruction?, ofElements_rename]
  | .call callee args => by
    rw [Expr.rename, ofConstruction?, ofConstruction?, ofReceiver?_rename]
  | .composite none _ | .ident _ | .selector _ _ | .index _ _ | .binary _ _ _ | .funcLit _
  | .assert _ _ | .type _ | .literal _ | .other => rfl

/-- Renaming does not matter to what is constructed below a chain of calls. -/
lemma ofReceiver?_rename (typeName : String) :
    ∀ e : Expr, ofReceiver? typeName (e.rename σ) = ofReceiver? typeName e
  | .paren inner => by
    rw [Expr.rename, ofReceiver?, ofReceiver?, ofReceiver?_rename]
  | .selector base field => by
    rw [Expr.rename, ofReceiver?, ofReceiver?, ofConstruction?_rename]
  | .ident _ | .call _ _ | .index _ _ | .unary _ _ | .binary _ _ _ | .composite _ _ | .funcLit _
  | .assert _ _ | .type _ | .literal _ | .other => rfl

end

/-- Renaming does not matter to what an expression constructs. -/
@[simp] lemma constructed?_rename (e : Expr) (typeName : String) :
    constructed? (e.rename σ) typeName = constructed? e typeName :=
  ofConstruction?_rename σ typeName true e

end Usage

/-! ## Usage of a variable -/

/-- The use of an expression with its variables renamed. -/
def Access.rename (σ : String → String) : Access → Access
  | .read => .read
  | .called => .called
  | .ignored => .ignored
  | .assigned value => .assigned (value.rename σ)

/-- Renaming does not matter to where a chain of selectors ends. -/
@[simp] lemma chainGoesOn_rename (σ : String → String) (frames : List Frame) :
    chainGoesOn (frames.map (Frame.rename σ)) = chainGoesOn frames := by
  induction frames with
  | nil => rfl
  | cons frame frames ih =>
    rw [List.map_cons, chainGoesOn, chainGoesOn, ih]
    rfl

/-- Renaming does not matter to what an access records. -/
@[simp] lemma VariableUsage.ofAccess_rename (σ : String → String) (path : Path) (access : Access) :
    ofAccess path (access.rename σ) = ofAccess path access := by
  cases access with
  | assigned value => rw [Access.rename, ofAccess, ofAccess, Usage.assignedFrom_rename]
  | _ => rfl

section

variable {σ : String → String} (hσ : IsRenaming σ)

include hσ

/-- A target is blank exactly if the renamed one is. -/
lemma IsRenaming.blank_target (target : Option Expr) :
    (target.map (Expr.rename σ)).bind Expr.ident? = some "_" ↔ target.bind Expr.ident? = some "_" := by
  cases target with
  | none => exact Iff.rfl
  | some e =>
    rw [Option.map_some, Option.bind_some, Option.bind_some, Expr.ident?_rename,
      Option.map_eq_some_iff]
    constructor
    · rintro ⟨name, h, e⟩
      rwa [(hσ.eq_iff hσ.blank).1 e] at h
    · intro h
      exact ⟨_, h, hσ.blank⟩

/-- The access under renamed nodes is the renamed access. -/
lemma Access.ofFrames_rename (frames : List Frame) :
    Access.ofFrames (frames.map (Frame.rename σ)) = (Access.ofFrames frames).rename σ := by
  rcases frames with _ | ⟨⟨parent, role⟩, frames⟩
  · rfl
  · cases parent with
    | expr e => cases role <;> rfl
    | stmt s =>
      cases s with
      | assign targets op values =>
        cases role with
        | assigned i =>
          simp only [List.map_cons, Frame.rename, Node.rename, Stmt.rename, renameExprs_eq, ofFrames,
            List.length_map, List.getElem?_map, List.head?_map, ← apply_ite (Option.map _),
            hσ.blank_target]
          rw [apply_ite (rename σ)]
          rfl
        | target i =>
          simp only [List.map_cons, Frame.rename, Node.rename, Stmt.rename, renameExprs_eq, ofFrames,
            List.length_map, List.getElem?_map]
          split
          · cases values[i]? <;> rfl
          · rfl
        | _ => rfl
      | _ => cases role <;> rfl

namespace VariableUsage

/-- A renamed node leaves for the renamed variable what the node left for the variable. -/
lemma ofVisit_rename (var : String) (visit : Visit) :
    ofVisit (σ var) (visit.rename σ) = ofVisit var visit := by
  obtain ⟨node, frames⟩ := visit
  cases node with
  | stmt s => rfl
  | expr e =>
    cases e with
    | selector base field =>
      have hc : (Expr.selector (base.rename σ) field).chain? =
          (Expr.selector base field).chain?.map fun p => (σ p.1, p.2) :=
        Expr.chain?_rename σ (.selector base field)
      -- the chain has its path unchanged, and its root is the variable if it was so before
      simp only [Visit.rename, Node.rename, Expr.rename, ofVisit, chainGoesOn_rename, hc,
        Access.ofFrames_rename hσ, ofAccess_rename]
      cases (Expr.selector base field).chain? with
      | none => rfl
      | some p => simp only [Option.map_some, hσ.injective.eq_iff]
    | _ => rfl

/-- A renamed body does with the renamed variable what the body did with the variable. -/
@[simp] lemma collect_rename (body : Block) (var : String) :
    collect (Block.rename σ body) (σ var) = collect body var := by
  have h : ofVisit (σ var) ∘ Visit.rename σ = ofVisit var := funext (ofVisit_rename hσ var)
  rw [collect_eq_visits, collect_eq_visits, Block.visits_rename, List.map_map, h]

end VariableUsage

/-! ## Delegation -/

/-- A renamed range over the renamed variable has the renamed element variable. -/
lemma Stmt.rangeElement?_rename (var : String) (s : Stmt) :
    (s.rename σ).rangeElement? (σ var) = (s.rangeElement? var).map σ := by
  cases s with
  | range key value define subject body =>
    cases value with
    | none => rfl
    | some value =>
      have hs : subject.unparen.ident?.map σ = some (σ var) ↔ subject.unparen.ident? = some var := by
        rw [← Option.map_some, (Option.map_injective hσ.injective).eq_iff]
      simp only [rename, renameExpr?_eq, Option.map_some, rangeElement?, Expr.unparen_rename,
        Expr.ident?_rename, hs, hσ.filter_blank]
      rw [apply_ite (Option.map σ), Option.map_none]
  | _ => rfl

/-- In a renamed body the elements of the renamed variable have the new name. -/
lemma Block.rangeElement?_rename (body : Block) (var : String) :
    Block.rangeElement? (Block.rename σ body) (σ var) = (Block.rangeElement? body var).map σ := by
  have h : Stmt.rangeElement? (σ var) ∘ Stmt.rename σ = Option.map σ ∘ Stmt.rangeElement? var :=
    funext (Stmt.rangeElement?_rename hσ var)
  rw [Block.rangeElement?_eq, Block.rangeElement?_eq, Block.statements_rename, List.findSome?_map, h,
    List.map_findSome?]

omit hσ in
/-- A renamed statement binds the renamed identifiers to the results of a call. -/
lemma Stmt.callBound_rename (s : Stmt) : (s.rename σ).callBound = s.callBound.map σ := by
  cases s with
  | assign targets op values =>
    rcases values with _ | ⟨value, _ | ⟨next, values⟩⟩
    · rfl
    · simp only [rename, renameExprs_eq, List.map_cons, List.map_nil, callBound,
        Expr.isCall_rename, List.filterMap_map, Function.comp_def, Expr.ident?_rename]
      rw [apply_ite (List.map σ), List.map_nil, List.map_filterMap]
    · rfl
  | var names type values =>
    rcases values with _ | ⟨value, _ | ⟨next, values⟩⟩
    · rfl
    · simp only [rename, renameExprs_eq, List.map_cons, List.map_nil, callBound,
        Expr.isCall_rename]
      rw [apply_ite (List.map σ), List.map_nil]
    · rfl
  | _ => rfl

omit hσ in
/-- In a renamed body the new names are bound to calls. -/
lemma Block.callBound_rename (body : Block) :
    Block.callBound (Block.rename σ body) = (Block.callBound body).map σ := by
  rw [Block.callBound_eq, Block.callBound_eq, Block.statements_rename, List.flatMap_map, List.map_flatMap]
  simp only [Stmt.callBound_rename]

/-- A renamed expression is forwarded by the new names exactly if the old one is by the old names. -/
lemma Expr.forwards_rename (bound : List String) (e : Expr) :
    (e.rename σ).forwards (bound.map σ) = e.forwards bound := by
  have h (name : String) : (bound.map σ).contains (σ name) = bound.contains name := by
    rw [Bool.eq_iff_iff, List.contains_iff_mem, List.contains_iff_mem,
      List.mem_map_of_injective hσ.injective]
  simp only [forwards, isCall_rename, core_rename, ident?_rename, Option.any_map, h]

/-- A renamed node stores a call exactly if the old one does. -/
lemma Node.storesCall_rename (bound : List String) (n : Node) :
    (n.rename σ).storesCall (bound.map σ) = n.storesCall bound := by
  cases n with
  | stmt s =>
    cases s with
    | assign targets op values =>
      rcases targets with _ | ⟨target, targets⟩
      · rfl
      · cases target with
        | index base operands =>
          cases values with
          | nil => rfl
          | cons value values => exact Expr.isCall_rename σ value
        | _ => rfl
    | _ => rfl
  | expr e =>
    cases e with
    | call callee args =>
      cases callee with
      | ident name =>
        by_cases h : name = "append"
        · subst h
          cases args with
          | nil =>
            simp only [rename, Expr.rename, hσ.append]
            rfl
          | cons arg args =>
            simp only [rename, Expr.rename, hσ.append, renameExprs_eq, List.map_cons, storesCall,
              List.any_map, Function.comp_def, Expr.forwards_rename hσ]
        · simp [rename, Expr.rename, storesCall, h, hσ.eq_iff hσ.append]
      | _ => rfl
    | _ => rfl

/-- A renamed body hands over elements of the renamed variable if the body handed over elements of
    the variable. -/
lemma Block.forwardsElements_rename (body : Block) (var : String) :
    Block.forwardsElements (Block.rename σ body) (σ var) = Block.forwardsElements body var := by
  simp only [Block.forwardsElements, Block.storesCall_eq, Block.rangeElement?_rename hσ, Option.isSome_map,
    Block.visits_rename, Block.callBound_rename, List.any_map, Function.comp_def, Visit.rename,
    Node.storesCall_rename hσ]

/-! ## Output -/

section

variable {typeName : String} (ht : ∀ name, sameName (σ name) typeName = sameName name typeName)

include ht

/-- A renamed expression builds a value of the named type if the expression did. -/
lemma Expr.constructs_rename (e : Expr) :
    (e.rename σ).constructs typeName = e.constructs typeName := by
  rw [constructs, constructs, unaddress_rename]
  cases e.unaddress with
  | composite type elements => cases type <;> rfl
  | call callee args =>
    cases callee with
    | ident name =>
      by_cases h : name = "new"
      · subst h
        rw [rename, rename, hσ.new, renameExprs_eq]
        rcases args with _ | ⟨arg, _ | ⟨next, args⟩⟩
        · rfl
        · cases arg with
          | ident name => exact ht name
          | _ => rfl
        · cases arg <;> rfl
      · simp [rename, h, hσ.eq_iff hσ.new]
    | _ => rfl
  | _ => rfl

/-- A renamed statement binds the renamed variable to a new value. -/
lemma Stmt.boundTo?_rename (s : Stmt) :
    (s.rename σ).boundTo? typeName = (s.boundTo? typeName).map σ := by
  cases s with
  | assign targets op values =>
    cases op with
    | define =>
      simp only [rename, renameExprs_eq, boundTo?, List.length_map, List.zip_map, List.find?_map,
        Function.comp_def, Prod.map_snd, Expr.constructs_rename hσ ht, Option.bind_map,
        Prod.map_fst, Expr.ident?_rename]
      rw [apply_ite (Option.map σ), Option.map_bind, Option.map_none]
      rfl
    | _ => rfl
  | var names type values =>
    cases values with
    | nil =>
      simp only [rename, renameExprs, boundTo?, List.head?_map]
      rw [apply_ite (Option.map σ), Option.map_none]
    | cons value values =>
      simp only [rename, renameExprs_eq, List.map_cons, boundTo?]
      rw [← List.map_cons, List.zip_map, List.find?_map, Option.map_map, Option.map_map]
      simp only [Function.comp_def, Prod.map_snd, Prod.map_fst, Expr.constructs_rename hσ ht]
  | _ => rfl

/-- The output variable of a renamed body is the renamed one. -/
lemma Block.outputVar?_rename (body : Block) :
    Block.outputVar? (Block.rename σ body) typeName = (Block.outputVar? body typeName).map σ := by
  have h : Stmt.boundTo? typeName ∘ Stmt.rename σ = Option.map σ ∘ Stmt.boundTo? typeName :=
    funext (Stmt.boundTo?_rename hσ ht)
  rw [Block.outputVar?_eq, Block.outputVar?_eq, Block.statements_rename, List.findSome?_map, h,
    ← List.map_findSome?, hσ.filter_blank]

end

/-- A renamed expression hands over the renamed values. -/
lemma Expr.handedOver_rename (e : Expr) :
    (e.rename σ).handedOver = e.handedOver.map (Expr.rename σ) := by
  rw [handedOver, handedOver, unparen_rename]
  cases e.unparen with
  | call callee args =>
    cases callee with
    | ident name =>
      by_cases h : name = "append"
      · subst h
        rw [rename, rename, hσ.append, renameExprs_eq]
        cases args with
        | nil =>
          simp only [List.map_nil, List.map_cons, rename, hσ.append, renameExprs]
        | cons arg args => rfl
      · simp [rename, h, hσ.eq_iff hσ.append]
    | _ => rfl
  | _ => rfl

/-- A renamed statement produces the renamed values. -/
lemma Stmt.produced_rename (s : Stmt) :
    (s.rename σ).produced = s.produced.map (Expr.rename σ) := by
  have h (values : List Expr) : (renameExprs σ values).flatMap Expr.handedOver =
      (values.flatMap Expr.handedOver).map (Expr.rename σ) := by
    rw [renameExprs_eq, List.flatMap_map, List.map_flatMap]
    simp only [Expr.handedOver_rename hσ]
  cases s with
  | assign targets op values => exact h values
  | var names type values => exact h values
  | ret values => exact h values
  | _ => rfl

/-- The literals of a renamed body supply the same fields. -/
lemma Block.constructions_rename (body : Block) (typeName : String) :
    Block.constructions (Block.rename σ body) typeName = Block.constructions body typeName := by
  have h : (Block.statements (Block.rename σ body)).flatMap Stmt.produced =
      ((Block.statements body).flatMap Stmt.produced).map (Expr.rename σ) := by
    rw [Block.statements_rename, List.flatMap_map, List.map_flatMap]
    simp only [Stmt.produced_rename hσ]
  rw [Block.constructions_eq, Block.constructions_eq, h, List.filterMap_map]
  simp only [Function.comp_def, Usage.constructed?_rename]

/-- A renamed body supplies the same to its result. -/
lemma Block.outputUsage_rename (body : Block) (resultName : Option String) {typeName : String}
    (ht : ∀ name, sameName (σ name) typeName = sameName name typeName) :
    (Block.outputUsage (Block.rename σ body) (resultName.map σ) typeName).usage =
      (Block.outputUsage body resultName typeName).usage := by
  have hv : ((resultName.map σ).filter (· != "_")).or
        (Block.outputVar? (Block.rename σ body) typeName) =
      ((resultName.filter (· != "_")).or (Block.outputVar? body typeName)).map σ := by
    rw [hσ.filter_blank, Block.outputVar?_rename hσ ht]
    cases resultName.filter (· != "_") <;> rfl
  simp only [Block.outputUsage, hv, Block.constructions_rename hσ]
  cases (resultName.filter (· != "_")).or (Block.outputVar? body typeName) with
  | none => rfl
  | some var => simp only [Option.map_some, Option.elim_some, VariableUsage.collect_rename hσ]

/-- A renamed body does with a renamed source what the body did with the source. -/
lemma Block.sourceUsage_rename (body : Block) (shape : Shape) (var : String) :
    Block.sourceUsage (Block.rename σ body) shape (σ var) = Block.sourceUsage body shape var := by
  simp only [Block.sourceUsage, VariableUsage.collect_rename hσ, Block.rangeElement?_rename hσ]
  cases Block.rangeElement? body var with
  | none => rfl
  | some element => simp only [Option.map_some, VariableUsage.collect_rename hσ]

/-- A renamed body delegates exactly if the old one does. -/
lemma Block.isDelegating_rename (body : Block) (source dest : Shape) (var : String) :
    Block.isDelegating (Block.rename σ body) source dest (σ var) =
      Block.isDelegating body source dest var := by
  rw [Block.isDelegating, Block.isDelegating, Block.forwardsElements_rename hσ]

end

/-! ## Signatures and verdicts -/

section

variable (σ : String → String)

/-- A parameter or a result under its new name. -/
def Param.rename (param : Param) : Param := { param with name := param.name.map σ }

/-- A function with the variables of its parameters, its results and its body renamed. -/
def FuncDecl.rename (decl : FuncDecl) : FuncDecl :=
  { decl with
    params := decl.params.map (Param.rename σ)
    results := decl.results.map (Param.rename σ)
    body := decl.body.map (Block.rename σ) }

/-- A candidate under its new name. -/
def CandidateParam.rename (c : CandidateParam) : CandidateParam := { c with name := c.name.map σ }

/-- A source and a destination under their new names. -/
def ConverterPair.rename (pair : ConverterPair) : ConverterPair :=
  { pair with source := pair.source.rename σ, dest := pair.dest.rename σ }

end

section

variable {σ : String → String} (hσ : IsRenaming σ)

include hσ

/-- The candidates among renamed parameters are the renamed ones. -/
lemma candidateParams_rename (table : TypeTable) (params : List Param) (types : List Ty) :
    candidateParams table (params.map (Param.rename σ)) types =
      (candidateParams table params types).map (CandidateParam.rename σ) := by
  rw [candidateParams, candidateParams, List.zip_map_left, List.zipIdx_map, List.filterMap_map,
    List.map_filterMap]
  apply List.filterMap_congr
  rintro ⟨⟨param, type⟩, index⟩ _
  simp only [Function.comp_apply, Prod.map_apply, id_eq, Param.rename, hσ.filter_blank,
    Option.map_map]
  rfl

variable (settings : Settings) (table : TypeTable) (decl : FuncDecl)

/-- The converter that a renamed function is has the renamed source and destination. -/
lemma classify_rename (params results : List Ty) :
    classify settings table (decl.rename σ) params results =
      (classify settings table decl params results).map (ConverterPair.rename σ) := by
  have hm : (decl.rename σ).isMethod = decl.isMethod := rfl
  rw [classify, classify, hm]
  split
  · rfl
  · split
    · rfl
    · rw [FuncDecl.rename, candidateParams_rename hσ, candidateParams_rename hσ,
        List.findSome?_map, List.map_findSome?]
      congr 1
      funext source
      -- names take no part in what qualifies as a pair
      simp only [Function.comp_apply, List.find?_map, Option.map_map]
      rfl

/-- The first candidate among renamed parameters is the old one with its new name. -/
lemma firstCandidate?_rename (params : List Param) (types : List Ty) :
    firstCandidate? table (params.map (Param.rename σ)) types =
      (firstCandidate? table params types).map (CandidateParam.rename σ) := by
  rw [firstCandidate?, firstCandidate?, candidateParams_rename hσ, List.head?_map]

/-- The selected pair of a renamed function is the renamed one. -/
lemma selectPair_rename (sig : Signature) :
    selectPair settings table (decl.rename σ) sig =
      (selectPair settings table decl sig).map (ConverterPair.rename σ) := by
  rw [selectPair, selectPair, classify_rename hσ]
  cases classify settings table decl sig.params sig.results with
  | some pair => rfl
  | none =>
    have hs : firstCandidate? table (decl.rename σ).params sig.params = _ :=
      firstCandidate?_rename hσ table decl.params sig.params
    have hd : firstCandidate? table (decl.rename σ).results sig.results = _ :=
      firstCandidate?_rename hσ table decl.results sig.results
    rw [hs, hd]
    cases firstCandidate? table decl.params sig.params with
    | none => rfl
    | some source => cases firstCandidate? table decl.results sig.results <;> rfl

end

/-- Two verdicts that differ only in the names of the variables before their missing paths: those of
    the source stand below `source`, those of the destination below `dest`, if it has a name. -/
def Verdict.Renamed (σ : String → String) (source : String) (dest : Option String)
    (v w : Verdict) : Prop :=
  ∃ sourcePaths destPaths,
    v.missingSource = qualify (some source) sourcePaths ∧
    v.missingDest = qualify dest destPaths ∧
    w = { v with
      missingSource := qualify (some (σ source)) sourcePaths
      missingDest := qualify (dest.map σ) destPaths }

/-- A list of missing paths determines the paths below the name of the variable. -/
lemma qualify_injective (var : Option String) : Function.Injective (qualify var) := by
  cases var with
  | none => exact fun _ _ h => h
  | some v =>
    apply List.map_injective_iff.2
    intro p q h
    exact (String.append_right_inj (v ++ ".")).1 h

/-- A verdict without missing paths has no names to change. -/
lemma Verdict.renamed_self (σ : String → String) (source : String) (dest : Option String)
    {v : Verdict} (hs : v.missingSource = []) (hd : v.missingDest = []) :
    v.Renamed σ source dest v := by
  have hq (var : Option String) : qualify var [] = [] := qualify_eq_nil.2 rfl
  obtain ⟨valid, kind, delegating, missingSource, missingDest⟩ := v
  cases hs
  cases hd
  exact ⟨[], [], (hq _).symm, (hq _).symm, by rw [hq, hq]⟩

section

variable {σ : String → String} (hσ : IsRenaming σ) (settings : Settings) (table : TypeTable)
  {pair : ConverterPair}
  (ht : ∀ name, sameName (σ name) pair.dest.candidate.name = sameName name pair.dest.candidate.name)

include hσ ht

/-- The verdict on a renamed body differs only in names. -/
lemma judgeBody_rename (var : String) (body : Block) :
    (judgeBody settings table pair var body).Renamed σ var pair.dest.name
      (judgeBody settings table (pair.rename σ) (σ var) (Block.rename σ body)) := by
  refine ⟨_, _, rfl, rfl, ?_⟩
  have ho := Block.outputUsage_rename hσ body pair.dest.name ht
  simp only [judgeBody, ConverterPair.rename, CandidateParam.rename, Block.sourceUsage_rename hσ, ho]

/-- The verdict on a renamed function is the old one with the names replaced. -/
lemma verdictOn_rename (var : String) (body : Option Block) :
    (verdictOn settings table pair var body).Renamed σ var pair.dest.name
      (verdictOn settings table (pair.rename σ) (σ var) (body.map (Block.rename σ))) := by
  cases body with
  | none => exact Verdict.renamed_self σ var pair.dest.name rfl rfl
  | some body =>
    have hd : Block.isDelegating (Block.rename σ body) (pair.rename σ).source.candidate.shape
        (pair.rename σ).dest.candidate.shape (σ var) =
          Block.isDelegating body pair.source.candidate.shape pair.dest.candidate.shape var :=
      Block.isDelegating_rename hσ body _ _ var
    simp only [verdictOn, Option.map_some, Option.elim_some, hd]
    split
    · exact Verdict.renamed_self σ var pair.dest.name rfl rfl
    · exact judgeBody_rename hσ settings table ht var body

end

/-! ## Swapping two names -/

/-- Swapping two names that are neither blank nor built in is a renaming. -/
lemma isRenaming_swap {a b : String} (ha : a ∉ ["_", "append", "new"])
    (hb : b ∉ ["_", "append", "new"]) : IsRenaming (Equiv.swap a b) := by
  have fixed (name : String) (h : name ∈ ["_", "append", "new"]) : Equiv.swap a b name = name :=
    Equiv.swap_apply_of_ne_of_ne (by rintro rfl; exact ha h) (by rintro rfl; exact hb h)
  exact ⟨(Equiv.swap a b).injective, fixed _ (by simp), fixed _ (by simp), fixed _ (by simp)⟩

/-- Swapping two names that are not that of a type keeps which names are. -/
lemma sameName_swap {a b typeName : String} (ha : sameName a typeName = false)
    (hb : sameName b typeName = false) (name : String) :
    sameName (Equiv.swap a b name) typeName = sameName name typeName := by
  rw [Equiv.swap_apply_def]
  split
  · rename_i e
    rw [e, ha, hb]
  · split
    · rename_i e
      rw [e, ha, hb]
    · rfl

/-- Swapping two names throughout a function leaves it refused for the same reason and in the same
    words, or gives the same verdict with the two names swapped before the missing paths. -/
theorem judge_swap_names (settings : Settings) (table : TypeTable) (decl : FuncDecl)
    (sig : Signature) {a b : String} (ha : a ∉ ["_", "append", "new"])
    (hb : b ∉ ["_", "append", "new"])
    (ht : ∀ pair, selectPair settings table decl sig = .ok pair →
      sameName a pair.dest.candidate.name = false ∧ sameName b pair.dest.candidate.name = false) :
    (∀ r, judge settings table decl sig = .error r →
      judge settings table (decl.rename (Equiv.swap a b)) sig = .error r ∧
        r.message (decl.rename (Equiv.swap a b)).qualifiedName = r.message decl.qualifiedName) ∧
    (∀ v, judge settings table decl sig = .ok v →
      ∃ pair var w, selectPair settings table decl sig = .ok pair ∧ pair.source.name = some var ∧
        judge settings table (decl.rename (Equiv.swap a b)) sig = .ok w ∧
        v.Renamed (Equiv.swap a b) var pair.dest.name w) := by
  have hσ := isRenaming_swap ha hb
  -- the three steps of `judge_eq`: every refusal comes before the names of the body are read
  rw [judge_eq, judge_eq, selectPair_rename hσ]
  split
  · refine ⟨fun r h => ⟨h, rfl⟩, fun v h => ?_⟩
    cases h
  · cases hp : selectPair settings table decl sig with
    | error r' =>
      refine ⟨fun r h => ⟨h, rfl⟩, fun v h => ?_⟩
      cases h
    | ok pair =>
      obtain ⟨ta, tb⟩ := ht pair hp
      have hname : (pair.rename (Equiv.swap a b)).source.name =
          pair.source.name.map (Equiv.swap a b) := rfl
      simp only [Except.map, Except.bind, hname]
      cases hx : pair.source.name with
      | none =>
        refine ⟨fun r h => ⟨h, rfl⟩, fun v h => ?_⟩
        cases h
      | some var =>
        refine ⟨fun r h => ?_, fun v h => ?_⟩
        · cases h
        · cases h
          exact ⟨pair, var, _, rfl, hx, rfl,
            verdictOn_rename hσ settings table (sameName_swap ta tb) var decl.body⟩

/-- The function `ToDTO(u User) (out UserDTO)` that copies one of the two fields. -/
def Sample.idOnly : FuncDecl := Sample.toNamedDTO [Sample.copy "ID", .ret []]

/-- With the two names of the sample swapped, the missing paths stand below the swapped names. -/
theorem judge_swap_sample :
    ∃ v w, judge {} Sample.table Sample.idOnly Sample.sig = .ok v ∧
      judge {} Sample.table (Sample.idOnly.rename (Equiv.swap "u" "out")) Sample.sig = .ok w ∧
      v.missing = ["u.Name", "out.Name"] ∧ w.missing = ["out.Name", "u.Name"] := by
  have hp : selectPair {} Sample.table Sample.idOnly Sample.sig = .ok _ := rfl
  have hv := judge_of_body hp rfl rfl rfl
  obtain ⟨_, hok⟩ := judge_swap_names {} Sample.table Sample.idOnly Sample.sig
    (a := "u") (b := "out") (by decide) (by decide) (by
      intro pair h
      cases hp.symm.trans h
      decide)
  obtain ⟨pair, var, w, hp', hx, hw, sourcePaths, destPaths, es, ed, rfl⟩ := hok _ hv
  cases hp.symm.trans hp'
  cases hx
  have hs : sourcePaths = ["Name"] :=
    qualify_injective (some "u") (es.symm.trans (by decide +kernel))
  have hd : destPaths = ["Name"] :=
    qualify_injective (some "out") (ed.symm.trans (by decide +kernel))
  subst hs hd
  refine ⟨_, _, hv, hw, ?_, ?_⟩
  · rw [Verdict.missing, es, ed]
    decide
  · decide

end FieldAudit
