import FieldAudit.Syntax.Basic

/-!
# Nodes of a body

Statements and expressions under one type, the part each plays in the node around it, and the walk
through the nodes of a block in source order. A walk keeps the stack of the nodes around the one that it
has reached, threads the state of a visitor along, and leaves out what lies below a refused node.
-/

namespace FieldAudit

/-- A statement or an expression. -/
inductive Node where
  | stmt (s : Stmt)
  | expr (e : Expr)

/-- The part that a node plays in the node directly around it. -/
inductive Role where
  /-- The base of a selector. -/
  | selected
  /-- The base of an index or slice expression. -/
  | indexed
  /-- The inside of parentheses. -/
  | enclosed
  /-- The operand of a unary operator. -/
  | operand (op : String)
  /-- The function of a call. -/
  | callee
  /-- The target of an assignment, by position. -/
  | target (i : Nat)
  /-- The value of an assignment, by position. -/
  | assigned (i : Nat)
  /-- Any other part. -/
  | part
deriving DecidableEq, Inhabited

namespace Node

instance : Inhabited Node := ⟨.stmt .other⟩

/-- The expression of an expression node. -/
def expr? : Node → Option Expr
  | expr e => some e
  | stmt _ => none

/-- The statement of a statement node. -/
def stmt? : Node → Option Stmt
  | stmt s => some s
  | expr _ => none

/-- Expressions as plain parts. -/
def exprParts (es : List Expr) : List (Role × Node) := es.map fun e => (.part, expr e)

/-- Statements as plain parts. -/
def stmtParts (ss : List Stmt) : List (Role × Node) := ss.map fun s => (.part, stmt s)

/-- The parts of an element: its key, unless that is a field name, and its value. -/
def elementParts : Element Expr → List (Role × Node)
  | .positional v => exprParts [v]
  | .field _ v => exprParts [v]
  | .keyed k v => exprParts [k, v]

/-- The parts of a clause: its expressions and its body. -/
def clauseParts (c : Clause Expr Stmt) : List (Role × Node) := exprParts c.exprs ++ stmtParts c.body

/-- The direct parts of a node in source order. -/
def children : Node → List (Role × Node)
  | stmt s => match s with
    | .expr e | .go e | .defer e | .incDec e => exprParts [e]
    | .assign targets _ values =>
      targets.mapIdx (fun i e => (.target i, expr e))
        ++ values.mapIdx (fun i e => (.assigned i, expr e))
    | .var _ _ values => exprParts values
    | .ret values => exprParts values
    | .block body => stmtParts body
    | .cond init test body otherwise =>
      stmtParts init.toList ++ exprParts [test] ++ stmtParts body ++ stmtParts otherwise.toList
    | .loop init test post body =>
      stmtParts init.toList ++ exprParts test.toList ++ stmtParts post.toList ++ stmtParts body
    | .range key value _ subject body =>
      exprParts key.toList ++ exprParts value.toList ++ exprParts [subject] ++ stmtParts body
    | .switch init tag clauses =>
      stmtParts init.toList ++ exprParts tag.toList ++ clauses.flatMap clauseParts
    | .send channel value => exprParts [channel, value]
    | .labeled inner => stmtParts [inner]
    | .other => []
  | expr e => match e with
    | .selector base _ => [(.selected, expr base)]
    | .call callee args => (.callee, expr callee) :: exprParts args
    | .index base operands => (.indexed, expr base) :: exprParts operands
    | .unary op operand => [(.operand op, expr operand)]
    | .binary _ left right => exprParts [left, right]
    | .paren inner => [(.enclosed, expr inner)]
    | .composite _ elements => elements.flatMap elementParts
    | .funcLit body => stmtParts body
    | .assert base _ => exprParts [base]
    | .ident _ | .type _ | .literal _ | .other => []

/-- Expressions are parts without a special role. -/
theorem mem_exprParts {es : List Expr} {p : Role × Node} :
    p ∈ exprParts es ↔ ∃ e ∈ es, p = (.part, expr e) := by
  simp [exprParts, eq_comm]

/-- Statements are parts without a special role. -/
theorem mem_stmtParts {ss : List Stmt} {p : Role × Node} :
    p ∈ stmtParts ss ↔ ∃ s ∈ ss, p = (.part, stmt s) := by
  simp [stmtParts, eq_comm]

/-- A part of an element is, as a node, not larger than the element. -/
theorem sizeOf_lt_of_mem_elementParts {el : Element Expr} {p : Role × Node}
    (h : p ∈ elementParts el) : sizeOf p.2 < 1 + sizeOf el := by
  cases el with
  | positional v =>
    simp only [elementParts, mem_exprParts, List.mem_singleton] at h
    obtain ⟨e, rfl, rfl⟩ := h
    simp only [expr.sizeOf_spec, Element.positional.sizeOf_spec]
    omega
  | field name v =>
    simp only [elementParts, mem_exprParts, List.mem_singleton] at h
    obtain ⟨e, rfl, rfl⟩ := h
    simp only [expr.sizeOf_spec, Element.field.sizeOf_spec]
    omega
  | keyed k v =>
    simp only [elementParts, mem_exprParts, List.mem_cons, List.not_mem_nil, or_false] at h
    obtain ⟨e, he, rfl⟩ := h
    simp only [expr.sizeOf_spec, Element.keyed.sizeOf_spec]
    rcases he with rfl | rfl <;> omega

/-- A part of a clause is, as a node, not larger than the clause. -/
theorem sizeOf_lt_of_mem_clauseParts {c : Clause Expr Stmt} {p : Role × Node}
    (h : p ∈ clauseParts c) : sizeOf p.2 < 1 + sizeOf c := by
  obtain ⟨exprs, body⟩ := c
  rcases List.mem_append.1 h with h | h
  · obtain ⟨e, he, rfl⟩ := mem_exprParts.1 h
    have : sizeOf e < sizeOf exprs := List.sizeOf_lt_of_mem he
    simp; omega
  · obtain ⟨s, hs, rfl⟩ := mem_stmtParts.1 h
    have : sizeOf s < sizeOf body := List.sizeOf_lt_of_mem hs
    simp; omega

/-- A list is larger than a member by at least two. -/
theorem sizeOf_add_two_le_of_mem {α : Type} [SizeOf α] {a : α} {l : List α} (h : a ∈ l) :
    sizeOf a + 2 ≤ sizeOf l := by
  induction l with
  | nil => simp at h
  | cons b l ih =>
    have : 1 ≤ sizeOf l := by
      cases l with
      | nil => simp
      | cons => simp; omega
    rcases List.mem_cons.1 h with rfl | h
    · simp; omega
    · have := ih h
      simp; omega

/-- An expression is smaller than a list that has it. -/
theorem sizeOf_lt_of_mem_exprParts {es : List Expr} {p : Role × Node}
    (h : p ∈ exprParts es) : sizeOf p.2 < sizeOf es := by
  obtain ⟨e, he, rfl⟩ := mem_exprParts.1 h
  have := sizeOf_add_two_le_of_mem he
  simp; omega

/-- A statement is smaller than a list that has it. -/
theorem sizeOf_lt_of_mem_stmtParts {ss : List Stmt} {p : Role × Node}
    (h : p ∈ stmtParts ss) : sizeOf p.2 < sizeOf ss := by
  obtain ⟨s, hs, rfl⟩ := mem_stmtParts.1 h
  have := sizeOf_add_two_le_of_mem hs
  simp; omega

/-- The list of an optional value is not larger than the value itself, up to one. -/
theorem sizeOf_toList_le {α : Type} [SizeOf α] (o : Option α) : sizeOf o.toList ≤ 1 + sizeOf o := by
  cases o with
  | none => simp
  | some b =>
    simp only [Option.toList_some, List.cons.sizeOf_spec, List.nil.sizeOf_spec,
      Option.some.sizeOf_spec]
    omega

/-- A part is smaller than the node that has it, which is why a walk ends. -/
theorem sizeOf_lt_of_mem_children {n : Node} {p : Role × Node} (h : p ∈ n.children) :
    sizeOf p.2 < sizeOf n := by
  cases n with
  | stmt s =>
    cases s with
    | expr e | go e | defer e | incDec e =>
      obtain ⟨_, he, rfl⟩ := mem_exprParts.1 h
      simp_all
    | assign targets op values =>
      simp only [children, List.mem_append, List.mem_mapIdx] at h
      rcases h with ⟨i, hi, rfl⟩ | ⟨i, hi, rfl⟩
      · have := List.sizeOf_lt_of_mem (List.getElem_mem hi)
        simp; omega
      · have := List.sizeOf_lt_of_mem (List.getElem_mem hi)
        simp; omega
    | var names type values =>
      have := sizeOf_lt_of_mem_exprParts h
      simp; omega
    | ret values =>
      have := sizeOf_lt_of_mem_exprParts h
      simp; omega
    | block body =>
      have := sizeOf_lt_of_mem_stmtParts h
      simp; omega
    | cond init test body otherwise =>
      simp only [children, List.mem_append] at h
      have h1 := sizeOf_toList_le init
      have h2 := sizeOf_toList_le otherwise
      rcases h with ((h | h) | h) | h
      · have := sizeOf_lt_of_mem_stmtParts h
        simp; omega
      · have := sizeOf_lt_of_mem_exprParts h
        simp at this ⊢; omega
      · have := sizeOf_lt_of_mem_stmtParts h
        simp; omega
      · have := sizeOf_lt_of_mem_stmtParts h
        simp; omega
    | loop init test post body =>
      simp only [children, List.mem_append] at h
      have h1 := sizeOf_toList_le init
      have h2 := sizeOf_toList_le post
      have h3 := sizeOf_toList_le test
      rcases h with ((h | h) | h) | h
      · have := sizeOf_lt_of_mem_stmtParts h
        simp; omega
      · have := sizeOf_lt_of_mem_exprParts h
        simp; omega
      · have := sizeOf_lt_of_mem_stmtParts h
        simp; omega
      · have := sizeOf_lt_of_mem_stmtParts h
        simp; omega
    | range key value define subject body =>
      simp only [children, List.mem_append] at h
      have h1 := sizeOf_toList_le key
      have h2 := sizeOf_toList_le value
      rcases h with ((h | h) | h) | h
      · have := sizeOf_lt_of_mem_exprParts h
        simp; omega
      · have := sizeOf_lt_of_mem_exprParts h
        simp; omega
      · have := sizeOf_lt_of_mem_exprParts h
        simp at this ⊢; omega
      · have := sizeOf_lt_of_mem_stmtParts h
        simp; omega
    | switch init tag clauses =>
      simp only [children, List.mem_append, List.mem_flatMap] at h
      have h1 := sizeOf_toList_le init
      have h2 := sizeOf_toList_le tag
      rcases h with (h | h) | ⟨c, hc, h⟩
      · have := sizeOf_lt_of_mem_stmtParts h
        simp; omega
      · have := sizeOf_lt_of_mem_exprParts h
        simp; omega
      · have := sizeOf_lt_of_mem_clauseParts h
        have := List.sizeOf_lt_of_mem hc
        simp; omega
    | send channel value =>
      simp only [children, mem_exprParts, List.mem_cons, List.not_mem_nil, or_false] at h
      obtain ⟨e, he, rfl⟩ := h
      simp only [expr.sizeOf_spec, stmt.sizeOf_spec, Stmt.send.sizeOf_spec]
      rcases he with rfl | rfl <;> omega
    | labeled inner =>
      have := sizeOf_lt_of_mem_stmtParts h
      simp at this ⊢; omega
    | other => simp [children] at h
  | expr e =>
    cases e with
    | selector base field | unary op base | paren base =>
      simp only [children, List.mem_singleton] at h
      subst h
      simp <;> omega
    | call callee args =>
      rcases List.mem_cons.1 h with rfl | h
      · simp; omega
      · have := sizeOf_lt_of_mem_exprParts h
        simp; omega
    | index base operands =>
      rcases List.mem_cons.1 h with rfl | h
      · simp; omega
      · have := sizeOf_lt_of_mem_exprParts h
        simp; omega
    | binary op left right =>
      simp only [children, mem_exprParts, List.mem_cons, List.not_mem_nil, or_false] at h
      obtain ⟨e, he, rfl⟩ := h
      simp only [expr.sizeOf_spec, Expr.binary.sizeOf_spec]
      rcases he with rfl | rfl <;> omega
    | composite type elements =>
      simp only [children, List.mem_flatMap] at h
      obtain ⟨el, hel, h⟩ := h
      have := sizeOf_lt_of_mem_elementParts h
      have := List.sizeOf_lt_of_mem hel
      simp; omega
    | funcLit body =>
      have := sizeOf_lt_of_mem_stmtParts h
      simp; omega
    | assert base type =>
      obtain ⟨_, he, rfl⟩ := mem_exprParts.1 h
      simp_all
      omega
    | ident name | type t | literal t | other => simp [children] at h

end Node

/-- A node that contains another one, with the part that the inner one plays. -/
structure Frame where
  parent : Node
  role : Role

/-- A node met in a body, with the frames around it, innermost first. -/
structure Visit where
  node : Node
  frames : List Frame

namespace Node

/-- Threads a state and the stack of the frames around the node through the nodes from this one down,
    parents first and parts in source order. A frame is pushed before a part is visited and popped
    afterwards. Where `visit` answers `false`, the parts of the node are left out. -/
def walk {σ : Type} (visit : Visit → σ → Bool × σ) (n : Node) (run : List Frame × σ) :
    List Frame × σ :=
  match visit ⟨n, run.1⟩ run.2 with
  | (false, state) => (run.1, state)
  | (true, state) => n.children.attach.foldl
      (fun run ⟨(role, child), _h⟩ =>
        let below := child.walk visit (⟨n, role⟩ :: run.1, run.2)
        (below.1.tail, below.2))
      (run.1, state)
termination_by sizeOf n
decreasing_by exact sizeOf_lt_of_mem_children _h

end Node

namespace Block

/-- Threads a state through the nodes of a block, from an empty stack on; see `Node.walk`. -/
def walk {σ : Type} (visit : Visit → σ → Bool × σ) (body : Block) (state : σ) : σ :=
  (body.foldl (fun run s => (Node.stmt s).walk visit run) ([], state)).2

/-- The first answer that a statement of a block gives, at any depth. Once there is one, every further
    node is refused. -/
def findStmt? {α : Type} (answer : Stmt → Option α) (body : Block) : Option α :=
  Block.walk (fun v found => (found.isNone, found.or (v.node.stmt?.bind answer))) body none

/-- Threads a state through the statements of a block at any depth. -/
def foldStmts {σ : Type} (step : σ → Stmt → σ) (body : Block) (state : σ) : σ :=
  Block.walk (fun v state => (true, v.node.stmt?.elim state (step state))) body state

end Block

end FieldAudit
