import Mathlib
import FieldAudit.Proofs.Walks

/-!
# Renaming variables

A body with its variables renamed: identifiers and declared names change, while selected fields, keys
of literals and types stay. Renaming keeps the shape of a body, so that the visit of a renamed body
meets the renamed nodes in the same order and under the renamed frames.
-/

namespace FieldAudit

variable (σ : String → String)

mutual

/-- The expression with its identifiers renamed. -/
def Expr.rename : Expr → Expr
  | .ident name => .ident (σ name)
  | .selector base field => .selector base.rename field
  | .call callee args => .call callee.rename (renameExprs args)
  | .index base operands => .index base.rename (renameExprs operands)
  | .unary op operand => .unary op operand.rename
  | .binary op left right => .binary op left.rename right.rename
  | .paren inner => .paren inner.rename
  | .composite type elements => .composite type (renameElements elements)
  | .funcLit body => .funcLit (renameStmts body)
  | .assert base type => .assert base.rename type
  | .type type => .type type
  | .literal text => .literal text
  | .other => .other

/-- The statement with its identifiers and declared names renamed. -/
def Stmt.rename : Stmt → Stmt
  | .expr value => .expr value.rename
  | .assign targets op values => .assign (renameExprs targets) op (renameExprs values)
  | .var names type values => .var (names.map σ) type (renameExprs values)
  | .ret values => .ret (renameExprs values)
  | .block body => .block (renameStmts body)
  | .cond init test body otherwise =>
    .cond (renameStmt? init) test.rename (renameStmts body) (renameStmt? otherwise)
  | .loop init test post body =>
    .loop (renameStmt? init) (renameExpr? test) (renameStmt? post) (renameStmts body)
  | .range key value define subject body =>
    .range (renameExpr? key) (renameExpr? value) define subject.rename (renameStmts body)
  | .switch init tag clauses =>
    .switch (renameStmt? init) (renameExpr? tag) (renameClauses clauses)
  | .go call => .go call.rename
  | .defer call => .defer call.rename
  | .incDec operand => .incDec operand.rename
  | .send channel value => .send channel.rename value.rename
  | .labeled stmt => .labeled stmt.rename
  | .other => .other

/-- Renames in an optional expression. -/
def renameExpr? : Option Expr → Option Expr
  | none => none
  | some e => some e.rename

/-- Renames in expressions in a row. -/
def renameExprs : List Expr → List Expr
  | [] => []
  | e :: es => e.rename :: renameExprs es

/-- Renames in an optional statement. -/
def renameStmt? : Option Stmt → Option Stmt
  | none => none
  | some s => some s.rename

/-- Renames in statements in a row. -/
def renameStmts : List Stmt → List Stmt
  | [] => []
  | s :: ss => s.rename :: renameStmts ss

/-- The element with its identifiers renamed; the name of a field is not an identifier. -/
def renameElement : Element Expr → Element Expr
  | .positional value => .positional value.rename
  | .field name value => .field name value.rename
  | .keyed key value => .keyed key.rename value.rename

/-- Renames in the elements of a literal. -/
def renameElements : List (Element Expr) → List (Element Expr)
  | [] => []
  | e :: es => renameElement e :: renameElements es

/-- Renames in the expressions and the body of a clause. -/
def renameClause : Clause Expr Stmt → Clause Expr Stmt
  | ⟨exprs, body⟩ => ⟨renameExprs exprs, renameStmts body⟩

/-- Renames in clauses in a row. -/
def renameClauses : List (Clause Expr Stmt) → List (Clause Expr Stmt)
  | [] => []
  | c :: cs => renameClause c :: renameClauses cs

end

/-- An optional expression is renamed if it is there. -/
@[simp] lemma renameExpr?_eq (o : Option Expr) : renameExpr? σ o = o.map (Expr.rename σ) := by
  cases o <;> rfl

/-- An optional statement is renamed if it is there. -/
@[simp] lemma renameStmt?_eq (o : Option Stmt) : renameStmt? σ o = o.map (Stmt.rename σ) := by
  cases o <;> rfl

/-- Expressions in a row are renamed one by one. -/
@[simp] lemma renameExprs_eq (es : List Expr) : renameExprs σ es = es.map (Expr.rename σ) := by
  induction es with
  | nil => rfl
  | cons e es ih => rw [renameExprs, ih, List.map_cons]

/-- Statements in a row are renamed one by one. -/
@[simp] lemma renameStmts_eq (ss : List Stmt) : renameStmts σ ss = ss.map (Stmt.rename σ) := by
  induction ss with
  | nil => rfl
  | cons s ss ih => rw [renameStmts, ih, List.map_cons]

/-- The elements of a literal are renamed one by one. -/
@[simp] lemma renameElements_eq (es : List (Element Expr)) :
    renameElements σ es = es.map (renameElement σ) := by
  induction es with
  | nil => rfl
  | cons e es ih => rw [renameElements, ih, List.map_cons]

/-- Clauses are renamed one by one. -/
@[simp] lemma renameClauses_eq (cs : List (Clause Expr Stmt)) :
    renameClauses σ cs = cs.map (renameClause σ) := by
  induction cs with
  | nil => rfl
  | cons c cs ih => rw [renameClauses, ih, List.map_cons]

/-- A body with its variables renamed. -/
def Block.rename (body : Block) : Block := body.map (Stmt.rename σ)

/-- A node with its variables renamed. -/
def Node.rename : Node → Node
  | stmt s => stmt (s.rename σ)
  | expr e => expr (e.rename σ)

/-- A frame with the variables of its node renamed. -/
def Frame.rename (frame : Frame) : Frame := ⟨frame.parent.rename σ, frame.role⟩

/-- A visit with the variables of its node and its frames renamed. -/
def Visit.rename (visit : Visit) : Visit := ⟨visit.node.rename σ, visit.frames.map (Frame.rename σ)⟩

namespace Node

/-- The renaming of a part of a node. -/
def renamePart (p : Role × Node) : Role × Node := (p.1, p.2.rename σ)

/-- Renamed expressions are the renamed parts. -/
@[simp] lemma exprParts_rename (es : List Expr) :
    exprParts (es.map (Expr.rename σ)) = (exprParts es).map (renamePart σ) := by
  simp only [exprParts, List.map_map]
  rfl

/-- Renamed statements are the renamed parts. -/
@[simp] lemma stmtParts_rename (ss : List Stmt) :
    stmtParts (ss.map (Stmt.rename σ)) = (stmtParts ss).map (renamePart σ) := by
  simp only [stmtParts, List.map_map]
  rfl

/-- The parts of a renamed element are its renamed parts. -/
lemma elementParts_rename (e : Element Expr) :
    elementParts (renameElement σ e) = (elementParts e).map (renamePart σ) := by
  cases e with
  | positional value => rfl
  | field name value => rfl
  | keyed key value => rfl

/-- The parts of a renamed clause are its renamed parts. -/
lemma clauseParts_rename (c : Clause Expr Stmt) :
    clauseParts (renameClause σ c) = (clauseParts c).map (renamePart σ) := by
  obtain ⟨exprs, body⟩ := c
  simp only [renameClause, clauseParts, renameExprs_eq, renameStmts_eq, exprParts_rename,
    stmtParts_rename, List.map_append]

/-- Renamed expressions keep the roles of their positions. -/
lemma mapIdx_rename (role : Nat → Role) (es : List Expr) :
    (es.map (Expr.rename σ)).mapIdx (fun i e => (role i, expr e)) =
      (es.mapIdx fun i e => (role i, expr e)).map (renamePart σ) := by
  apply List.ext_getElem?
  intro i
  simp only [List.getElem?_mapIdx, List.getElem?_map, Option.map_map]
  rfl

/-- The parts of a renamed node are the renamed parts, in the same roles. -/
lemma children_rename (n : Node) : (n.rename σ).children = n.children.map (renamePart σ) := by
  cases n with
  | stmt s =>
    cases s with
    | expr e | go e | defer e | incDec e => rfl
    | labeled inner => rfl
    | send channel value => rfl
    | other => rfl
    | assign targets op values =>
      simp only [rename, Stmt.rename, children, renameExprs_eq, mapIdx_rename, List.map_append]
    | var names type values =>
      simp only [rename, Stmt.rename, children, renameExprs_eq, exprParts_rename]
    | ret values =>
      simp only [rename, Stmt.rename, children, renameExprs_eq, exprParts_rename]
    | block body =>
      simp only [rename, Stmt.rename, children, renameStmts_eq, stmtParts_rename]
    | cond init test body otherwise =>
      simp only [rename, Stmt.rename, children, renameStmt?_eq, renameStmts_eq, Option.toList_map,
        stmtParts_rename, List.map_append]
      rfl
    | loop init test post body =>
      simp only [rename, Stmt.rename, children, renameStmt?_eq, renameExpr?_eq, renameStmts_eq,
        Option.toList_map, stmtParts_rename, exprParts_rename, List.map_append]
    | range key value define subject body =>
      simp only [rename, Stmt.rename, children, renameExpr?_eq, renameStmts_eq, Option.toList_map,
        stmtParts_rename, exprParts_rename, List.map_append]
      rfl
    | switch init tag clauses =>
      simp only [rename, Stmt.rename, children, renameStmt?_eq, renameExpr?_eq, renameClauses_eq,
        Option.toList_map, stmtParts_rename, exprParts_rename, List.map_append, List.flatMap_map,
        List.map_flatMap, clauseParts_rename]
  | expr e =>
    cases e with
    | ident name | type type | literal text | other => rfl
    | selector base field => rfl
    | unary op operand => rfl
    | binary op left right => rfl
    | paren inner => rfl
    | assert base type => rfl
    | call callee args =>
      simp only [rename, Expr.rename, children, renameExprs_eq, exprParts_rename, List.map_cons]
      rfl
    | index base operands =>
      simp only [rename, Expr.rename, children, renameExprs_eq, exprParts_rename, List.map_cons]
      rfl
    | composite type elements =>
      simp only [rename, Expr.rename, children, renameElements_eq, List.flatMap_map, List.map_flatMap,
        elementParts_rename]
    | funcLit body =>
      simp only [rename, Expr.rename, children, renameStmts_eq, stmtParts_rename]

/-- The visit of a renamed node meets the renamed nodes in the same order. -/
lemma visits_rename (frames : List Frame) (n : Node) :
    (n.rename σ).visits (frames.map (Frame.rename σ)) = (n.visits frames).map (Visit.rename σ) := by
  induction frames, n using visits.induct with
  | case1 frames n ih =>
    rw [visits_eq, visits_eq, children_rename, List.map_cons, List.flatMap_map, List.map_flatMap]
    congr 1
    apply List.flatMap_congr
    rintro ⟨role, child⟩ hc
    exact ih role child hc

/-- The statement of a renamed node is the renamed statement. -/
lemma stmt?_rename (n : Node) : (n.rename σ).stmt? = n.stmt?.map (Stmt.rename σ) := by
  cases n <;> rfl

end Node

namespace Block

/-- The visit of a renamed body meets the renamed nodes in the same order. -/
lemma visits_rename (body : Block) :
    Block.visits (Block.rename σ body) = (Block.visits body).map (Visit.rename σ) := by
  rw [Block.visits, Block.visits, Block.rename, List.flatMap_map, List.map_flatMap]
  apply List.flatMap_congr
  intro s _
  exact Node.visits_rename σ [] (.stmt s)

/-- The statements of a renamed body are the renamed statements. -/
lemma statements_rename (body : Block) :
    Block.statements (Block.rename σ body) = (Block.statements body).map (Stmt.rename σ) := by
  rw [Block.statements, Block.statements, visits_rename, List.filterMap_map, List.map_filterMap]
  apply List.filterMap_congr
  intro v _
  exact Node.stmt?_rename σ v.node

end Block

end FieldAudit
