import Mathlib
import FieldAudit.Proofs.Collection
import FieldAudit.Proofs.Judgement

/-!
# Usage is collected part by part

What a body does with a variable is what its statements do, each taken by itself: neither the order of
the statements nor what stands around them matters. A selector is read by the frames around it, but
these end at the nearest statement, since no statement carries a selector chain on. Only assignments
say more about their parts than the parts themselves.
-/

namespace FieldAudit

/-! ## Frames -/

/-- Both lists of frames give the same use to the node inside them. -/
structure SameUse (frames frames' : List Frame) : Prop where
  goesOn : chainGoesOn frames = chainGoesOn frames'
  access : Access.ofFrames frames = Access.ofFrames frames'

/-- The use of a node by the node directly around it does not depend on the frames further out. -/
lemma Access.ofFrames_cons (frame : Frame) (frames frames' : List Frame) :
    Access.ofFrames (frame :: frames) = Access.ofFrames (frame :: frames') := by
  obtain ⟨parent, role⟩ := frame
  cases parent with
  | expr e => cases role <;> rfl
  | stmt s => cases s <;> cases role <;> rfl

/-- A frame around both keeps the use the same. -/
lemma SameUse.cons {frames frames' : List Frame} (h : SameUse frames frames') (frame : Frame) :
    SameUse (frame :: frames) (frame :: frames') := by
  refine ⟨?_, Access.ofFrames_cons frame frames frames'⟩
  rw [chainGoesOn, chainGoesOn, h.goesOn]

/-- A plain part of a node is used as if it stood alone. -/
lemma sameUse_part (parent : Node) (frames : List Frame) :
    SameUse (⟨parent, .part⟩ :: frames) [] := by
  refine ⟨rfl, ?_⟩
  cases parent with
  | expr e => rfl
  | stmt s => cases s <;> rfl

namespace VariableUsage

/-- What a visit records depends only on how the node is used there. -/
lemma ofVisit_congr {frames frames' : List Frame} (h : SameUse frames frames') (var : String)
    (n : Node) : ofVisit var ⟨n, frames⟩ = ofVisit var ⟨n, frames'⟩ := by
  unfold ofVisit
  simp only [h.goesOn, h.access]

/-- A node does the same with a variable under frames that give the same use. -/
lemma collectFrom_congr {frames frames' : List Frame} (h : SameUse frames frames') (var : String)
    (n : Node) : collectFrom var frames n = collectFrom var frames' n := by
  -- each step down adds the same frame on both sides
  induction frames, n using Node.visits.induct generalizing frames' with
  | case1 frames n ih =>
    rw [collectFrom_eq, collectFrom_eq, ofVisit_congr h]
    congr 2
    apply List.map_congr_left
    rintro ⟨role, child⟩ hc
    exact ih role child hc (h.cons ⟨n, role⟩)

/-- What a node does with a variable where only plain parts stand in it: the parts do it, each taken
    alone. -/
lemma collectFrom_of_parts (n : Node) (hn : n.selected? = none)
    (hp : ∀ p ∈ n.children, p.1 = .part) (var : String) (frames : List Frame) :
    collectFrom var frames n = mergeAll (n.children.map fun p => collectFrom var [] p.2) := by
  rw [collectFrom_of_not_selector hn]
  congr 1
  apply List.map_congr_left
  rintro ⟨role, child⟩ hc
  obtain rfl : role = .part := hp _ hc
  exact collectFrom_congr (sameUse_part n frames) var child

end VariableUsage

/-! ## Statements and their parts -/

/-- The statements that a statement is made of: its direct statements, and its direct expressions as
    statements of their own. A closure that stands alone is made of the statements in it. An
    assignment is not taken apart, and nor is any other expression. -/
def Stmt.parts : Stmt → Block
  | .expr (.funcLit body) => body
  | .expr e | .go e | .defer e | .incDec e => [.expr e]
  | .assign targets op values => [.assign targets op values]
  | .var _ _ values => values.map .expr
  | .ret values => values.map .expr
  | .block body => body
  | .cond init test body otherwise =>
    init.toList ++ [.expr test] ++ body ++ otherwise.toList
  | .loop init test post body =>
    init.toList ++ test.toList.map .expr ++ post.toList ++ body
  | .range key value _ subject body =>
    key.toList.map .expr ++ value.toList.map .expr ++ [.expr subject] ++ body
  | .switch init tag clauses =>
    init.toList ++ tag.toList.map .expr ++ clauses.flatMap fun c => c.exprs.map .expr ++ c.body
  | .send channel value => [.expr channel, .expr value]
  | .labeled inner => [inner]
  | .other => []

/-- A node as a statement of its own. -/
def Node.asStmt : Node → Stmt
  | stmt s => s
  | expr e => .expr e

/-- The parts of a node are plain, and these are the statements that they make. -/
structure PlainParts (ps : List (Role × Node)) (b : Block) : Prop where
  role : ∀ p ∈ ps, p.1 = .part
  stmts : ps.map (fun p => p.2.asStmt) = b

namespace PlainParts

/-- A list of expressions has the parts of the block that evaluates them one after the other. -/
lemma ofExprs (es : List Expr) : PlainParts (Node.exprParts es) (es.map .expr) := by
  constructor
  · intro p hp
    obtain ⟨e, _, rfl⟩ := Node.mem_exprParts.1 hp
    rfl
  · rw [Node.exprParts, List.map_map]
    rfl

/-- A list of statements has the parts of the block that it is. -/
lemma ofStmts (b : Block) : PlainParts (Node.stmtParts b) b := by
  constructor
  · intro p hp
    obtain ⟨s, _, rfl⟩ := Node.mem_stmtParts.1 hp
    rfl
  · rw [Node.stmtParts, List.map_map]
    exact List.map_id b

/-- Parts one after the other are those of blocks one after the other. -/
lemma append {ps qs : List (Role × Node)} {b c : Block} (hp : PlainParts ps b)
    (hq : PlainParts qs c) : PlainParts (ps ++ qs) (b ++ c) := by
  constructor
  · intro p h
    rcases List.mem_append.1 h with h | h
    · exact hp.role p h
    · exact hq.role p h
  · rw [List.map_append, hp.stmts, hq.stmts]

/-- Clauses have the parts of the block of their expressions and bodies. -/
lemma ofClauses (clauses : List (Clause Expr Stmt)) :
    PlainParts (clauses.flatMap Node.clauseParts)
      (clauses.flatMap fun c => c.exprs.map .expr ++ c.body) := by
  induction clauses with
  | nil => exact ⟨nofun, rfl⟩
  | cons c clauses ih => exact ((ofExprs c.exprs).append (ofStmts c.body)).append ih

end PlainParts

namespace VariableUsage

variable (var : String)

/-- A block does what its statements do, each taken by itself. -/
lemma collect_eq_mergeAll (b : Block) : collect b var = mergeAll (b.map fun s => collect [s] var) := by
  have h (s : Stmt) : collect [s] var = collectFrom var [] (.stmt s) := by
    simp [collect_eq]
  simp only [h, collect_eq]

/-- The usage in two blocks is that in the first merged with that in the second. -/
lemma collect_append (b c : Block) : collect (b ++ c) var = (collect b var).merge (collect c var) := by
  rw [collect_eq, List.map_append, mergeAll_append, ← collect_eq, ← collect_eq]

/-- A node does as a statement what it does by itself. -/
lemma collectFrom_asStmt (n : Node) : collectFrom var [] (.stmt n.asStmt) = collectFrom var [] n := by
  cases n with
  | stmt s => rfl
  | expr e =>
    rw [Node.asStmt, collectFrom_of_parts (.stmt (.expr e)) rfl (PlainParts.ofExprs [e]).role]
    exact merge_empty _

/-- A node with plain parts does what the statements do that its parts make. -/
lemma collectFrom_of_plainParts (n : Node) {b : Block} (hn : n.selected? = none)
    (h : PlainParts n.children b) (frames : List Frame) :
    collectFrom var frames n = collect b var := by
  rw [collectFrom_of_parts n hn h.role, collect_eq, ← h.stmts, List.map_map]
  congr 1
  apply List.map_congr_left
  intro p _
  exact (collectFrom_asStmt var p.2).symm

/-- A statement with plain parts does what the statements do that its parts make. -/
lemma collect_of_plainParts {s : Stmt} {b : Block} (h : PlainParts (Node.stmt s).children b) :
    collect [s] var = collect b var := by
  rw [collect_eq, List.map_singleton, mergeAll_cons, mergeAll_nil, merge_empty,
    collectFrom_of_plainParts var (.stmt s) rfl h]

/-- A closure does what the statements in it do. -/
lemma collect_funcLit (body : Block) : collect [.expr (.funcLit body)] var = collect body var := by
  rw [collect_eq, List.map_singleton, mergeAll_cons, mergeAll_nil, merge_empty]
  rw [← collectFrom_of_plainParts var (.expr (.funcLit body)) rfl (.ofStmts body) []]
  exact collectFrom_asStmt var (.expr (.funcLit body))

open PlainParts in
/-- A statement does what its parts do. -/
lemma collect_parts (s : Stmt) : collect [s] var = collect s.parts var := by
  cases s with
  | assign targets op values => rfl
  | expr e =>
    cases e with
    | funcLit body => exact collect_funcLit var body
    | _ => rfl
  | var names type values => exact collect_of_plainParts var (ofExprs values)
  | ret values => exact collect_of_plainParts var (ofExprs values)
  | block body => exact collect_of_plainParts var (ofStmts body)
  | cond init test body otherwise =>
    exact collect_of_plainParts var (((ofStmts init.toList).append (ofExprs [test])).append
      (ofStmts body) |>.append (ofStmts otherwise.toList))
  | loop init test post body =>
    exact collect_of_plainParts var (((ofStmts init.toList).append (ofExprs test.toList)).append
      (ofStmts post.toList) |>.append (ofStmts body))
  | range key value define subject body =>
    exact collect_of_plainParts var (((ofExprs key.toList).append (ofExprs value.toList)).append
      (ofExprs [subject]) |>.append (ofStmts body))
  | switch init tag clauses =>
    exact collect_of_plainParts var (((ofStmts init.toList).append (ofExprs tag.toList)).append
      (ofClauses clauses))
  | go call => exact collect_of_plainParts var (ofExprs [call])
  | defer call => exact collect_of_plainParts var (ofExprs [call])
  | incDec operand => exact collect_of_plainParts var (ofExprs [operand])
  | send channel value => exact collect_of_plainParts var (ofExprs [channel, value])
  | labeled inner => exact collect_of_plainParts var (ofStmts [inner])
  | other => exact collect_of_plainParts var (ofStmts [])

end VariableUsage

/-- One statement of a block is replaced by its parts. -/
inductive Block.Unnests : Block → Block → Prop where
  | replace (before : Block) (s : Stmt) (after : Block) :
    Unnests (before ++ s :: after) (before ++ (s.parts ++ after))

/-- Replacing statements by their parts, or parts by the statement around them, any number of times
    changes nothing that is collected. -/
lemma VariableUsage.collect_of_unnests {b c : Block} (h : Relation.EqvGen Block.Unnests b c)
    (var : String) : collect b var = collect c var := by
  induction h with
  | rel b c h =>
    obtain ⟨before, s, after⟩ := h
    rw [collect_append, collect_append, collect_append, ← collect_parts, ← List.singleton_append,
      collect_append]
  | refl b => rfl
  | symm b c _ ih => exact ih.symm
  | trans b c d _ _ ih₁ ih₂ => exact ih₁.trans ih₂

/-! ## The order and the number of statements -/

namespace VariableUsage

/-- A set of names in a merged list is the union of these sets. -/
lemma mem_mergeAll_iff {names : VariableUsage → NameSet} (h0 : names ∅ = ∅)
    (hm : ∀ u v, names (u.merge v) = names u ∪ names v) {us : List VariableUsage} {name : String} :
    name ∈ names (mergeAll us) ↔ ∃ u ∈ us, name ∈ names u := by
  induction us with
  | nil => simp [h0]
  | cons u us ih => simp [hm, ih]

/-- Merging a list depends only on the usages in it, not on their order or number. -/
lemma mergeAll_congr {us vs : List VariableUsage} (h : ∀ u, u ∈ us ↔ u ∈ vs) :
    mergeAll us = mergeAll vs := by
  have key {names : VariableUsage → NameSet} (h0 : names ∅ = ∅)
      (hm : ∀ u v, names (u.merge v) = names u ∪ names v) :
      names (mergeAll us) = names (mergeAll vs) := by
    apply OrderedSet.ext_mem
    intro name
    simp only [mem_mergeAll_iff h0 hm, h]
  have tree : (mergeAll us).tree = (mergeAll vs).tree := by
    rw [tree_mergeAll, tree_mergeAll]
    apply Usage.mergeAll_congr
    simp only [List.mem_map, h, implies_true]
  have fields : (mergeAll us).fields = (mergeAll vs).fields := key rfl fun _ _ => rfl
  have methods : (mergeAll us).methods = (mergeAll vs).methods := key rfl fun _ _ => rfl
  have ignored : (mergeAll us).ignored = (mergeAll vs).ignored := key rfl fun _ _ => rfl
  calc mergeAll us
      = ⟨(mergeAll us).fields, (mergeAll us).methods, (mergeAll us).ignored, (mergeAll us).tree⟩ := rfl
    _ = mergeAll vs := by rw [fields, methods, ignored, tree]

/-- Merging usages of a variable does not depend on which comes first. -/
lemma merge_comm (u v : VariableUsage) : u.merge v = v.merge u := by
  have swap : mergeAll [u, v] = mergeAll [v, u] := mergeAll_congr fun w => by simp [or_comm]
  simpa using swap

/-- Blocks of the same statements, in any order and number, do the same with a variable. -/
lemma collect_congr {b c : Block} (h : ∀ s, s ∈ b ↔ s ∈ c) (var : String) :
    collect b var = collect c var := by
  rw [collect_eq, collect_eq]
  apply mergeAll_congr
  simp only [List.mem_map, h, implies_true]

end VariableUsage

namespace Block

/-- Blocks with the same statements contain the same nodes. -/
lemma contains_congr {b c : Block} (h : ∀ s, s ∈ b ↔ s ∈ c) (n : Node) :
    Block.Contains b n ↔ Block.Contains c n := by
  simp only [Block.Contains, h]

/-- Blocks of the same statements build the same literals. -/
lemma constructions_congr {b c : Block} (h : ∀ s, s ∈ b ↔ s ∈ c) (typeName : String) :
    Block.constructions b typeName = Block.constructions c typeName := by
  rw [constructions_eq, constructions_eq]
  apply Usage.mergeAll_congr
  simp only [List.mem_filterMap, List.mem_flatMap, mem_statements, contains_congr h, implies_true]

/-- Blocks of the same statements supply the same to a result with a name. -/
lemma outputUsage_congr {b c : Block} (h : ∀ s, s ∈ b ↔ s ∈ c) {result : String}
    (hr : result ≠ "_") (typeName : String) :
    Block.outputUsage b (some result) typeName = Block.outputUsage c (some result) typeName := by
  have hf : (some result).filter (· != "_") = some result :=
    Option.filter_some_pos (by simpa using hr)
  simp only [Block.outputUsage, hf, Option.some_or, Option.elim_some,
    VariableUsage.collect_congr h, constructions_congr h]

/-- Blocks of the same statements read the same of a single struct. -/
lemma sourceUsage_congr {b c : Block} (h : ∀ s, s ∈ b ↔ s ∈ c) {shape : Shape}
    (hs : shape.isSingle = true) (var : String) :
    Block.sourceUsage b shape var = Block.sourceUsage c shape var := by
  simp only [Block.sourceUsage, hs, if_true, VariableUsage.collect_congr h]

/-- A body that converts a single struct hands no elements to another function. -/
lemma isDelegating_of_single (body : Block) {shape : Shape} (hs : shape.isSingle = true)
    (dest : Shape) (var : String) : Block.isDelegating body shape dest var = false := by
  cases shape with
  | value => rfl
  | pointer => rfl
  | sequence => cases hs
  | mapping => cases hs

end Block

/-! ## Verdicts -/

/-- Bodies of the same statements get the same verdict on a single struct and a result with a name. -/
lemma verdictOn_congr {settings : Settings} {table : TypeTable} {pair : ConverterPair} {b c : Block}
    (h : ∀ s, s ∈ b ↔ s ∈ c) (hs : pair.source.candidate.shape.isSingle = true) {result : String}
    (hd : pair.dest.name = some result) (hr : result ≠ "_") (var : String) :
    verdictOn settings table pair var (some b) = verdictOn settings table pair var (some c) := by
  simp only [verdictOn, Option.elim_some, Block.isDelegating_of_single _ hs, judgeBody, hd,
    Block.sourceUsage_congr h hs, Block.outputUsage_congr h hr]

/-- Collecting the usage of a variable goes part by part: two blocks in a row do what both of them do,
    the order and the number of the statements do not matter, and a statement does what its parts do,
    so that nesting can be added or taken away freely. So the verdict on a function that converts a
    single struct to a result with a name does not depend on the order of its statements. -/
theorem collect_compositional :
    (∀ (b c : Block) (var : String),
      VariableUsage.collect (b ++ c) var =
        (VariableUsage.collect b var).merge (VariableUsage.collect c var)) ∧
    (∀ (b c : Block) (var : String), (∀ s, s ∈ b ↔ s ∈ c) →
      VariableUsage.collect b var = VariableUsage.collect c var) ∧
    (∀ (s : Stmt) (var : String),
      VariableUsage.collect [s] var =
        .mergeAll (s.parts.map fun part => VariableUsage.collect [part] var)) ∧
    (∀ (b c : Block) (var : String), Relation.EqvGen Block.Unnests b c →
      VariableUsage.collect b var = VariableUsage.collect c var) ∧
    ∀ (settings : Settings) (table : TypeTable) (decl : FuncDecl) (sig : Signature)
      (pair : ConverterPair) (body body' : Block),
      selectPair settings table decl sig = .ok pair →
      pair.source.candidate.shape.isSingle = true →
      pair.dest.name.isSome = true →
      decl.body = some body →
      body.Perm body' →
      judge settings table { decl with body := some body' } sig = judge settings table decl sig := by
  refine ⟨fun b c var => VariableUsage.collect_append var b c,
    fun b c var h => VariableUsage.collect_congr h var, ?_,
    fun b c var h => VariableUsage.collect_of_unnests h var, ?_⟩
  · intro s var
    rw [VariableUsage.collect_parts, VariableUsage.collect_eq_mergeAll]
  · intro settings table decl sig pair body body' hp hs hd hb perm
    obtain ⟨result, hd⟩ := Option.isSome_iff_exists.1 hd
    have hr : result ≠ "_" := ne_blank_of_mem_candidateParams (mem_of_selectPair hp).2 hd
    have hp' : selectPair settings table { decl with body := some body' } sig = .ok pair := hp
    rw [judge_eq, judge_eq, hp', hp, hb]
    simp only [Except.bind, verdictOn_congr (fun s => perm.mem_iff) hs hd hr]

/-- The sample is valid whichever of its two assignments comes first, and a block around them changes
    nothing. -/
theorem collect_compositional_sample :
    (judge {} Sample.table (Sample.toNamedDTO [Sample.copy "ID", Sample.copy "Name", .ret []])
        Sample.sig).toOption.map (·.valid) = some true ∧
      judge {} Sample.table (Sample.toNamedDTO [Sample.copy "Name", Sample.copy "ID", .ret []])
          Sample.sig =
        judge {} Sample.table (Sample.toNamedDTO [Sample.copy "ID", Sample.copy "Name", .ret []])
          Sample.sig ∧
      VariableUsage.collect [.block [Sample.copy "ID", Sample.copy "Name"]] "u" =
        VariableUsage.collect [Sample.copy "ID", Sample.copy "Name"] "u" := by
  obtain ⟨_, _, _, hu, hj⟩ := collect_compositional
  refine ⟨by decide +kernel, ?_, ?_⟩
  · exact hj {} Sample.table (Sample.toNamedDTO [Sample.copy "ID", Sample.copy "Name", .ret []])
      Sample.sig _ _ _ rfl rfl rfl rfl (.swap _ _ _)
  · exact hu _ _ "u" (.rel _ _ (.replace [] _ []))

end FieldAudit
