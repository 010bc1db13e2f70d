import Mathlib
import FieldAudit.Proofs.Walks

/-!
# Walks that leave out what is refused

The outline of a body is read off its syntax: below each statement and expression stand the statements
and expressions that it is made of. Each has a place of its own, the way down to it, and one stands inside
of another exactly if its place goes on from there. A walk through the body is a run over the outline from
top to bottom, in which every node is visited once, unless one around it was refused.
-/

namespace FieldAudit

/-- A node and the outlines of its parts, in the order of the source. -/
inductive Outline where
  | mk (node : Node) (parts : List (Role × Outline))

mutual

/-- The outlines of the parts of an expression. -/
def Expr.outlines : Expr → List (Role × Outline)
  | .ident _ => []
  | .selector base _ => [(.selected, .mk (.expr base) base.outlines)]
  | .call callee args =>
    (.callee, .mk (.expr callee) callee.outlines) :: exprOutlines (fun _ => .part) args
  | .index base operands =>
    (.indexed, .mk (.expr base) base.outlines) :: exprOutlines (fun _ => .part) operands
  | .unary op operand => [(.operand op, .mk (.expr operand) operand.outlines)]
  | .binary _ left right =>
    [(.part, .mk (.expr left) left.outlines), (.part, .mk (.expr right) right.outlines)]
  | .paren inner => [(.enclosed, .mk (.expr inner) inner.outlines)]
  | .composite _ elements => elementOutlines elements
  | .funcLit body => stmtOutlines body
  | .assert base _ => [(.part, .mk (.expr base) base.outlines)]
  | .type _ => []
  | .literal _ => []
  | .other => []

/-- The outlines of the parts of a statement. -/
def Stmt.outlines : Stmt → List (Role × Outline)
  | .expr value => [(.part, .mk (.expr value) value.outlines)]
  | .assign targets _ values => exprOutlines .target targets ++ exprOutlines .assigned values
  | .var _ _ values => exprOutlines (fun _ => .part) values
  | .ret values => exprOutlines (fun _ => .part) values
  | .block body => stmtOutlines body
  | .cond init test body otherwise =>
    stmtOutline? init ++ (.part, .mk (.expr test) test.outlines) :: stmtOutlines body
      ++ stmtOutline? otherwise
  | .loop init test post body =>
    stmtOutline? init ++ exprOutline? test ++ stmtOutline? post ++ stmtOutlines body
  | .range key value _ subject body =>
    exprOutline? key ++ exprOutline? value
      ++ (.part, .mk (.expr subject) subject.outlines) :: stmtOutlines body
  | .switch init tag clauses => stmtOutline? init ++ exprOutline? tag ++ clauseOutlines clauses
  | .go call => [(.part, .mk (.expr call) call.outlines)]
  | .defer call => [(.part, .mk (.expr call) call.outlines)]
  | .incDec operand => [(.part, .mk (.expr operand) operand.outlines)]
  | .send channel value =>
    [(.part, .mk (.expr channel) channel.outlines), (.part, .mk (.expr value) value.outlines)]
  | .labeled stmt => [(.part, .mk (.stmt stmt) stmt.outlines)]
  | .other => []

/-- The outline of an optional expression. -/
def exprOutline? : Option Expr → List (Role × Outline)
  | none => []
  | some e => [(.part, .mk (.expr e) e.outlines)]

/-- The outline of an optional statement. -/
def stmtOutline? : Option Stmt → List (Role × Outline)
  | none => []
  | some s => [(.part, .mk (.stmt s) s.outlines)]

/-- The outlines of expressions in a row, whose roles are told by their positions. -/
def exprOutlines (role : Nat → Role) : List Expr → List (Role × Outline)
  | [] => []
  | e :: es => (role 0, .mk (.expr e) e.outlines) :: exprOutlines (fun i => role (i + 1)) es

/-- The outlines of statements in a row. -/
def stmtOutlines : List Stmt → List (Role × Outline)
  | [] => []
  | s :: ss => (.part, .mk (.stmt s) s.outlines) :: stmtOutlines ss

/-- The outlines of a key that is an expression, and of a value. -/
def elementOutline : Element Expr → List (Role × Outline)
  | .positional value => [(.part, .mk (.expr value) value.outlines)]
  | .field _ value => [(.part, .mk (.expr value) value.outlines)]
  | .keyed key value =>
    [(.part, .mk (.expr key) key.outlines), (.part, .mk (.expr value) value.outlines)]

/-- The outlines of the elements of a literal. -/
def elementOutlines : List (Element Expr) → List (Role × Outline)
  | [] => []
  | e :: es => elementOutline e ++ elementOutlines es

/-- The outlines of the expressions and the body of a clause. -/
def clauseOutline : Clause Expr Stmt → List (Role × Outline)
  | ⟨exprs, body⟩ => exprOutlines (fun _ => .part) exprs ++ stmtOutlines body

/-- The outlines of clauses in a row. -/
def clauseOutlines : List (Clause Expr Stmt) → List (Role × Outline)
  | [] => []
  | c :: cs => clauseOutline c ++ clauseOutlines cs

end

/-- The outlines of the parts of a node. -/
def Node.outlines : Node → List (Role × Outline)
  | stmt s => s.outlines
  | expr e => e.outlines

/-- The outline of a node. -/
def Node.outline (n : Node) : Outline := .mk n n.outlines

/-- The nodes around a visited one, the outermost first. -/
def Visit.enclosing (v : Visit) : List Node := (v.frames.map (·.parent)).reverse

/-- A node met in its place, which is given by the position of each part on the way down to it. -/
structure Occurrence where
  place : List Nat
  visit : Visit

/-- The first place lies on the way to the second one. -/
def LiesAbove (p q : List Nat) : Prop := p <+: q ∧ p ≠ q

instance (p q : List Nat) : Decidable (LiesAbove p q) := inferInstanceAs (Decidable (_ ∧ _))

mutual

/-- What an outline has at a place and below, from top to bottom. -/
def Outline.occurrences (place : List Nat) (frames : List Frame) : Outline → List Occurrence
  | .mk node parts =>
    ⟨place, node, frames⟩ :: partOccurrences place (fun role => ⟨node, role⟩ :: frames) 0 parts

/-- What outlines in a row have below a place, from top to bottom; the first one is in this position. -/
def partOccurrences (place : List Nat) (frames : Role → List Frame) (position : Nat) :
    List (Role × Outline) → List Occurrence
  | [] => []
  | (role, part) :: parts => part.occurrences (place ++ [position]) (frames role)
      ++ partOccurrences place frames (position + 1) parts

end

/-- The statements and expressions of a body at any depth, in the order of the source. -/
def Block.occurrences (body : Block) : List Occurrence :=
  partOccurrences [] (fun _ => []) 0 (stmtOutlines body)

section

variable {σ : Type}

/-- Visits what is met in a place, unless a place above it was refused. The refused places are kept
    beside the state of the visitor. -/
def Occurrence.step (visit : Visit → σ → Bool × σ) (run : σ × List (List Nat)) (o : Occurrence) :
    σ × List (List Nat) :=
  if ∃ refused ∈ run.2, LiesAbove refused o.place then run
  else ((visit o.visit run.1).2, if (visit o.visit run.1).1 then run.2 else o.place :: run.2)

end

/-! ## The outline and the parts of a node -/

/-- The outline of a part, under the role that the part plays. -/
def Node.outlinePart (p : Role × Node) : Role × Outline := (p.1, p.2.outline)

section

open Node

/-- An optional expression is outlined as its part. -/
lemma exprOutline?_eq (o : Option Expr) :
    exprOutline? o = (exprParts o.toList).map outlinePart := by
  cases o with
  | none => rfl
  | some e => rfl

/-- An optional statement is outlined as its part. -/
lemma stmtOutline?_eq (o : Option Stmt) :
    stmtOutline? o = (stmtParts o.toList).map outlinePart := by
  cases o with
  | none => rfl
  | some s => rfl

/-- Expressions in a row are outlined as parts with their roles. -/
lemma exprOutlines_eq (role : Nat → Role) (es : List Expr) :
    exprOutlines role es = (es.mapIdx fun i e => (role i, expr e)).map outlinePart := by
  induction es generalizing role with
  | nil => rfl
  | cons e es ih =>
    rw [exprOutlines, ih, List.mapIdx_cons]
    rfl

/-- Expressions without a special role are outlined as plain parts. -/
lemma exprOutlines_part (es : List Expr) :
    exprOutlines (fun _ => .part) es = (exprParts es).map outlinePart := by
  induction es with
  | nil => rfl
  | cons e es ih =>
    rw [exprOutlines, ih]
    rfl

/-- Statements in a row are outlined as parts. -/
lemma stmtOutlines_eq (ss : List Stmt) : stmtOutlines ss = (stmtParts ss).map outlinePart := by
  induction ss with
  | nil => rfl
  | cons s ss ih =>
    rw [stmtOutlines, ih]
    rfl

/-- The elements of a literal are outlined as their parts. -/
lemma elementOutlines_eq (els : List (Element Expr)) :
    elementOutlines els = (els.flatMap elementParts).map outlinePart := by
  induction els with
  | nil => rfl
  | cons el els ih =>
    rw [elementOutlines, ih, List.flatMap_cons, List.map_append]
    cases el with
    | positional v => rfl
    | field name v => rfl
    | keyed k v => rfl

/-- Clauses are outlined as their parts. -/
lemma clauseOutlines_eq (cs : List (Clause Expr Stmt)) :
    clauseOutlines cs = (cs.flatMap clauseParts).map outlinePart := by
  induction cs with
  | nil => rfl
  | cons c cs ih =>
    rw [clauseOutlines, ih, List.flatMap_cons, List.map_append, clauseOutline, exprOutlines_part,
      stmtOutlines_eq, clauseParts, List.map_append]

/-- The outline of a node has its parts and no others. -/
lemma Node.outlines_eq (n : Node) : n.outlines = n.children.map outlinePart := by
  cases n with
  | stmt s =>
    cases s with
    | expr e => rfl
    | go e => rfl
    | defer e => rfl
    | incDec e => rfl
    | assign targets op values =>
      rw [outlines, Stmt.outlines, exprOutlines_eq, exprOutlines_eq, ← List.map_append]
      rfl
    | var names type values => exact exprOutlines_part values
    | ret values => exact exprOutlines_part values
    | block body => exact stmtOutlines_eq body
    | cond init test body otherwise =>
      rw [outlines, Stmt.outlines, stmtOutline?_eq, stmtOutline?_eq, stmtOutlines_eq]
      simp only [children, List.map_append]
      rw [List.append_assoc _ _ ((stmtParts body).map _)]
      rfl
    | loop init test post body =>
      rw [outlines, Stmt.outlines, stmtOutline?_eq, stmtOutline?_eq, exprOutline?_eq, stmtOutlines_eq]
      simp only [children, List.map_append]
    | range key value define subject body =>
      rw [outlines, Stmt.outlines, exprOutline?_eq, exprOutline?_eq, stmtOutlines_eq]
      simp only [children, List.map_append]
      rw [List.append_assoc _ _ ((stmtParts body).map _)]
      rfl
    | switch init tag clauses =>
      rw [outlines, Stmt.outlines, stmtOutline?_eq, exprOutline?_eq, clauseOutlines_eq]
      simp only [children, List.map_append]
    | send channel value => rfl
    | labeled stmt => rfl
    | other => rfl
  | expr e =>
    cases e with
    | ident name => rfl
    | selector base field => rfl
    | call callee args =>
      rw [outlines, Expr.outlines, exprOutlines_part]
      rfl
    | index base operands =>
      rw [outlines, Expr.outlines, exprOutlines_part]
      rfl
    | unary op operand => rfl
    | binary op left right => rfl
    | paren inner => rfl
    | composite type elements => exact elementOutlines_eq elements
    | funcLit body => exact stmtOutlines_eq body
    | assert base type => rfl
    | type t => rfl
    | literal text => rfl
    | other => rfl

end

/-! ## Places -/

/-- What holds of an outline whenever it holds of its parts holds of every outline. -/
@[elab_as_elim]
lemma Outline.induction {motive : Outline → Prop}
    (mk : ∀ node parts, (∀ p ∈ parts, motive p.2) → motive (.mk node parts)) (t : Outline) :
    motive t := by
  refine @Outline.rec motive (fun parts => ∀ p ∈ parts, motive p.2) (fun p => motive p.2) mk ?_ ?_ ?_ t
  · intro p hp
    exact absurd hp List.not_mem_nil
  · intro part parts hpart hparts p hp
    cases List.mem_cons.1 hp with
    | inl e => exact e ▸ hpart
    | inr hp => exact hparts p hp
  · intro role part hpart
    exact hpart

section

variable {place : List Nat} {frames : Role → List Frame} {position : Nat} {o : Occurrence}

/-- What is met below a place is met in one of the parts. -/
lemma exists_part {parts : List (Role × Outline)}
    (h : o ∈ partOccurrences place frames position parts) :
    ∃ i p, position ≤ i ∧ p ∈ parts ∧ o ∈ p.2.occurrences (place ++ [i]) (frames p.1) := by
  induction parts generalizing position with
  | nil =>
    rw [partOccurrences] at h
    exact absurd h List.not_mem_nil
  | cons p parts ih =>
    rw [partOccurrences] at h
    cases List.mem_append.1 h with
    | inl h => exact ⟨position, p, Nat.le_refl _, List.mem_cons_self, h⟩
    | inr h =>
      obtain ⟨i, q, hi, hq, h⟩ := ih h
      exact ⟨i, q, Nat.le_of_succ_le hi, List.mem_cons_of_mem p hq, h⟩

/-- What an outline has from a place on lies there or below. -/
lemma Outline.starts_place {t : Outline} {frames : List Frame} (h : o ∈ t.occurrences place frames) :
    place <+: o.place := by
  induction t using Outline.induction generalizing place frames with
  | mk node parts ih =>
    rw [Outline.occurrences] at h
    cases List.mem_cons.1 h with
    | inl e => rw [e]
    | inr h =>
      obtain ⟨i, p, _, hp, h⟩ := exists_part h
      exact (List.prefix_append place _).trans (ih p hp h)

/-- What is met below a place lies at or below the position of some part. -/
lemma exists_position {parts : List (Role × Outline)}
    (h : o ∈ partOccurrences place frames position parts) :
    ∃ i, position ≤ i ∧ place ++ [i] <+: o.place := by
  obtain ⟨i, p, hi, _, h⟩ := exists_part h
  exact ⟨i, hi, p.2.starts_place h⟩

/-- A place lies above what is at or below the position of a part. -/
lemma liesAbove_of_position {q : List Nat} (h : place ++ [position] <+: q) : LiesAbove place q := by
  refine ⟨(List.prefix_append place _).trans h, ?_⟩
  intro e
  have := h.length_le
  rw [← e, List.length_append] at this
  exact absurd this (Nat.not_succ_le_self _)

/-- Different positions below a place do not lead to one place. -/
lemma position_unique {i j : Nat} {q : List Nat} (hi : place ++ [i] <+: q) (hj : place ++ [j] <+: q) :
    i = j := by
  have h := List.prefix_of_prefix_length_le hi hj (by simp)
  rw [List.prefix_append_right_inj] at h
  exact (List.cons_prefix_cons.1 h).1

/-- Parts in different positions share no place. -/
lemma nodup_partOccurrences {parts : List (Role × Outline)}
    (h : ∀ p ∈ parts, ∀ place frames, ((p.2.occurrences place frames).map Occurrence.place).Nodup)
    (place : List Nat) (frames : Role → List Frame) (position : Nat) :
    ((partOccurrences place frames position parts).map Occurrence.place).Nodup := by
  induction parts generalizing position with
  | nil =>
    rw [partOccurrences]
    exact List.nodup_nil
  | cons p parts ih =>
    rw [partOccurrences, List.map_append, List.nodup_append]
    refine ⟨h p List.mem_cons_self _ _, ih (fun q hq => h q (List.mem_cons_of_mem p hq)) _, ?_⟩
    intro q hq r hr e
    obtain ⟨o, ho, rfl⟩ := List.mem_map.1 hq
    obtain ⟨o', ho', rfl⟩ := List.mem_map.1 hr
    obtain ⟨i, hi, below⟩ := exists_position ho'
    rw [← e] at below
    obtain rfl := position_unique (p.2.starts_place ho) below
    exact absurd hi (Nat.not_succ_le_self _)

/-- No place has two nodes. -/
lemma Outline.nodup_places (t : Outline) (place : List Nat) (frames : List Frame) :
    ((t.occurrences place frames).map Occurrence.place).Nodup := by
  induction t using Outline.induction generalizing place frames with
  | mk node parts ih =>
    rw [Outline.occurrences, List.map_cons, List.nodup_cons]
    refine ⟨?_, nodup_partOccurrences ih place _ 0⟩
    intro h
    obtain ⟨o, ho, e⟩ := List.mem_map.1 h
    obtain ⟨i, _, hi⟩ := exists_position ho
    exact (liesAbove_of_position hi).2 e.symm

/-- The nodes of a list that lie above a place, in the order of the list. -/
def nodesAbove (os : List Occurrence) (place : List Nat) : List Node :=
  (os.filter fun o => LiesAbove o.place place).map (·.visit.node)

/-- The nodes above a place are looked up in one list after the other. -/
lemma nodesAbove_append (os os' : List Occurrence) (place : List Nat) :
    nodesAbove (os ++ os') place = nodesAbove os place ++ nodesAbove os' place := by
  rw [nodesAbove, List.filter_append, List.map_append]
  rfl

/-- A node that lies above the place is the first one found. -/
lemma nodesAbove_cons {q : List Nat} (h : LiesAbove o.place q) (os : List Occurrence) :
    nodesAbove (o :: os) q = o.visit.node :: nodesAbove os q := by
  have keep : decide (LiesAbove o.place q) = true := decide_eq_true h
  simp only [nodesAbove, List.filter_cons, keep, if_true, List.map_cons]

/-- No node is found where none lies above the place. -/
lemma nodesAbove_eq_nil {os : List Occurrence} {q : List Nat}
    (h : ∀ o ∈ os, ¬ LiesAbove o.place q) : nodesAbove os q = [] := by
  rw [nodesAbove, List.filter_eq_nil_iff.2, List.map_nil]
  intro o ho above
  exact h o ho (of_decide_eq_true above)

/-- The nodes around an occurrence in the parts are those around the parts and those above it there. -/
lemma enclosing_partOccurrences {parts : List (Role × Outline)} {around : List Node}
    (h : ∀ p ∈ parts, ∀ place frames, ∀ o ∈ p.2.occurrences place frames,
      o.visit.enclosing =
        (frames.map (·.parent)).reverse ++ nodesAbove (p.2.occurrences place frames) o.place)
    (hf : ∀ role, ((frames role).map (·.parent)).reverse = around)
    (ho : o ∈ partOccurrences place frames position parts) :
    o.visit.enclosing =
      around ++ nodesAbove (partOccurrences place frames position parts) o.place := by
  induction parts generalizing position with
  | nil =>
    rw [partOccurrences] at ho
    exact absurd ho List.not_mem_nil
  | cons p parts ih =>
    rw [partOccurrences] at ho ⊢
    rw [nodesAbove_append]
    cases List.mem_append.1 ho with
    | inl ho =>
      have none : nodesAbove (partOccurrences place frames (position + 1) parts) o.place = [] := by
        apply nodesAbove_eq_nil
        intro o' ho' above
        obtain ⟨i, hi, below⟩ := exists_position ho'
        obtain rfl := position_unique (p.2.starts_place ho) (below.trans above.1)
        exact absurd hi (Nat.not_succ_le_self _)
      rw [none, List.append_nil, ← hf p.1]
      exact h p List.mem_cons_self _ _ o ho
    | inr ho =>
      have none : nodesAbove (p.2.occurrences (place ++ [position]) (frames p.1)) o.place = [] := by
        apply nodesAbove_eq_nil
        intro o' ho' above
        obtain ⟨i, hi, below⟩ := exists_position ho
        obtain rfl := position_unique ((p.2.starts_place ho').trans above.1) below
        exact absurd hi (Nat.not_succ_le_self _)
      rw [none, List.nil_append]
      exact ih (fun q hq => h q (List.mem_cons_of_mem p hq)) ho

/-- A node stands inside of those above its place, the outermost first. -/
lemma Outline.enclosing_eq (t : Outline) (place : List Nat) (frames : List Frame) :
    ∀ o ∈ t.occurrences place frames, o.visit.enclosing =
      (frames.map (·.parent)).reverse ++ nodesAbove (t.occurrences place frames) o.place := by
  induction t using Outline.induction generalizing place frames with
  | mk node parts ih =>
    intro o ho
    rw [Outline.occurrences] at ho ⊢
    cases List.mem_cons.1 ho with
    | inl e =>
      rw [nodesAbove_eq_nil, List.append_nil, e]
      · rfl
      · intro o' ho' above
        rw [e] at above
        cases List.mem_cons.1 ho' with
        | inl e' => exact above.2 (by rw [e'])
        | inr ho' =>
          obtain ⟨i, _, below⟩ := exists_position ho'
          exact (liesAbove_of_position (below.trans above.1)).2 rfl
    | inr ho =>
      obtain ⟨i, _, below⟩ := exists_position ho
      have above : LiesAbove place o.place := liesAbove_of_position below
      rw [nodesAbove_cons above, List.append_cons]
      apply enclosing_partOccurrences ih _ ho
      intro role
      rw [List.map_cons, List.reverse_cons]

end

/-! ## The run over the outline -/

namespace Node

/-- The outline of a node has the node itself and then what its parts have. -/
lemma outline_occurrences (n : Node) (place : List Nat) (frames : List Frame) :
    n.outline.occurrences place frames = ⟨place, n, frames⟩ ::
      partOccurrences place (fun role => ⟨n, role⟩ :: frames) 0 (n.children.map outlinePart) := by
  rw [outline, Outline.occurrences, outlines_eq]

/-- The visits to the parts are those of their own walks. -/
lemma map_visit_partOccurrences {parts : List (Role × Node)} {frames : Role → List Frame}
    (h : ∀ p ∈ parts, ∀ place,
      (p.2.outline.occurrences place (frames p.1)).map Occurrence.visit = p.2.visits (frames p.1))
    (place : List Nat) (position : Nat) :
    (partOccurrences place frames position (parts.map outlinePart)).map Occurrence.visit =
      parts.flatMap fun p => p.2.visits (frames p.1) := by
  induction parts generalizing position with
  | nil =>
    rw [List.map_nil, partOccurrences]
    rfl
  | cons p parts ih =>
    rw [List.map_cons, outlinePart, partOccurrences, List.map_append, List.flatMap_cons,
      h p List.mem_cons_self, ih fun q hq => h q (List.mem_cons_of_mem p hq)]

/-- The visit of a node meets what its outline has, in the same order. -/
lemma map_visit_occurrences (n : Node) (place : List Nat) (frames : List Frame) :
    (n.outline.occurrences place frames).map Occurrence.visit = n.visits frames := by
  induction frames, n using visits.induct generalizing place with
  | case1 frames n ih =>
    rw [outline_occurrences, visits_eq, List.map_cons, map_visit_partOccurrences]
    intro p hp place
    exact ih p.1 p.2 hp place

end Node

section

variable {σ : Type} {visit : Visit → σ → Bool × σ}

/-- None of the places lies above or below the given one, or is that place. -/
def Beside (refused : List (List Nat)) (place : List Nat) : Prop :=
  ∀ r ∈ refused, ¬ r <+: place ∧ ¬ place <+: r

/-- No refused place lies above a place beside them all. -/
lemma Beside.not_liesAbove {refused : List (List Nat)} {place : List Nat} (h : Beside refused place) :
    ¬ ∃ r ∈ refused, LiesAbove r place := by
  rintro ⟨r, hr, above⟩
  exact (h r hr).1 above.1

/-- The parts of what is beside the refused places are beside them. -/
lemma Beside.part {refused : List (List Nat)} {place : List Nat} (h : Beside refused place)
    (position : Nat) : Beside refused (place ++ [position]) := by
  intro r hr
  refine ⟨?_, ?_⟩
  · intro hp
    cases List.prefix_concat_iff.1 hp with
    | inl e => exact (h r hr).2 (e ▸ List.prefix_append place _)
    | inr hp => exact (h r hr).1 hp
  · intro hp
    exact (h r hr).2 ((List.prefix_append place _).trans hp)

/-- Places below one position stand beside all other positions. -/
lemma beside_of_position {new : List (List Nat)} {place : List Nat} {i j : Nat} (ne : i ≠ j)
    (h : ∀ r ∈ new, place ++ [i] <+: r) : Beside new (place ++ [j]) := by
  intro r hr
  refine ⟨?_, ?_⟩
  · intro hp
    exact ne (position_unique ((h r hr).trans hp) List.prefix_rfl)
  · intro hp
    exact ne (position_unique (h r hr) hp)

/-- A place beside old and new refused places is beside them all. -/
lemma Beside.append {refused new : List (List Nat)} {place : List Nat} (hn : Beside new place)
    (hr : Beside refused place) : Beside (new ++ refused) place := by
  intro r h
  cases List.mem_append.1 h with
  | inl h => exact hn r h
  | inr h => exact hr r h

/-- What lies below a refused place is passed over. -/
lemma foldl_step_below {os : List Occurrence} {run : σ × List (List Nat)} {refused : List Nat}
    (hr : refused ∈ run.2) (h : ∀ o ∈ os, LiesAbove refused o.place) :
    os.foldl (Occurrence.step visit) run = run := by
  induction os with
  | nil => rfl
  | cons o os ih =>
    have skip : o.step visit run = run := if_pos ⟨refused, hr, h o List.mem_cons_self⟩
    rw [List.foldl_cons, skip]
    exact ih fun o' ho' => h o' (List.mem_cons_of_mem o ho')

/-- From places beside the refused ones on, the run over the outline of a node ends in the state of the
    walk, and adds refused places only from there on. -/
def RunsAsWalk (visit : Visit → σ → Bool × σ) (frames : List Frame) (n : Node) : Prop :=
  ∀ place state refused, Beside refused place → ∃ new, (∀ r ∈ new, place <+: r) ∧
    (n.outline.occurrences place frames).foldl (Occurrence.step visit) (state, refused) =
      ((n.walk visit (frames, state)).2, new ++ refused)

/-- The run over parts in a row ends in the state of their walks, if each part runs as its walk. -/
lemma foldl_partOccurrences {parts : List (Role × Node)} (frames : Role → List Frame)
    (h : ∀ p ∈ parts, RunsAsWalk visit (frames p.1) p.2) (place : List Nat) (position : Nat)
    (state : σ) (refused : List (List Nat))
    (hr : ∀ i, position ≤ i → Beside refused (place ++ [i])) :
    ∃ new, (∀ r ∈ new, place <+: r) ∧
      (partOccurrences place frames position (parts.map Node.outlinePart)).foldl
          (Occurrence.step visit) (state, refused) =
        (parts.foldl (fun state p => (p.2.walk visit (frames p.1, state)).2) state, new ++ refused) := by
  induction parts generalizing position state refused with
  | nil =>
    refine ⟨[], fun r hr => absurd hr List.not_mem_nil, ?_⟩
    rw [List.map_nil, partOccurrences]
    rfl
  | cons p parts ih =>
    obtain ⟨first, hfirst, efirst⟩ :=
      h p List.mem_cons_self (place ++ [position]) state refused (hr position (Nat.le_refl _))
    have beside : ∀ i, position + 1 ≤ i → Beside (first ++ refused) (place ++ [i]) := by
      intro i hi
      exact (beside_of_position (Nat.ne_of_lt hi) hfirst).append (hr i (Nat.le_of_succ_le hi))
    obtain ⟨rest, hrest, erest⟩ :=
      ih (fun q hq => h q (List.mem_cons_of_mem p hq)) (position + 1) _ _ beside
    refine ⟨rest ++ first, ?_, ?_⟩
    · intro r hr
      cases List.mem_append.1 hr with
      | inl hr => exact hrest r hr
      | inr hr => exact (List.prefix_append place _).trans (hfirst r hr)
    · rw [List.map_cons, Node.outlinePart, partOccurrences, List.foldl_append, efirst, erest,
        List.foldl_cons, List.append_assoc]

/-- Every node runs as its walk. -/
lemma runsAsWalk (visit : Visit → σ → Bool × σ) (frames : List Frame) (n : Node) :
    RunsAsWalk visit frames n := by
  induction frames, n using Node.visits.induct with
  | case1 frames n ih =>
    intro place state refused beside
    have step : Occurrence.step visit (state, refused) ⟨place, n, frames⟩ =
        ((visit ⟨n, frames⟩ state).2,
          if (visit ⟨n, frames⟩ state).1 then refused else place :: refused) :=
      if_neg beside.not_liesAbove
    rw [Node.outline_occurrences, List.foldl_cons, step, Node.walk_state]
    by_cases goesOn : (visit ⟨n, frames⟩ state).1 = true
    · rw [if_pos goesOn, if_pos goesOn]
      apply foldl_partOccurrences
      · intro p hp
        exact ih p.1 p.2 hp
      · intro i _
        exact beside.part i
    · rw [if_neg goesOn, if_neg goesOn, foldl_step_below List.mem_cons_self]
      · refine ⟨[place], ?_, rfl⟩
        intro r hr
        rw [List.mem_singleton.1 hr]
      · intro o ho
        obtain ⟨i, _, below⟩ := exists_position ho
        exact liesAbove_of_position below

end

/-- The visit of a body meets what its outline has, from top to bottom: each node once, in a place of its
    own, inside of the nodes that lie above it. A walk with any visitor, whatever state it carries, is the
    run over the same nodes that passes over exactly those with a refused one above them. -/
theorem walk_visits_unrefused (body : Block) :
    (Block.occurrences body).map Occurrence.visit = Block.visits body ∧
    ((Block.occurrences body).map Occurrence.place).Nodup ∧
    (∀ o ∈ Block.occurrences body, o.visit.enclosing =
      ((Block.occurrences body).filter fun o' => LiesAbove o'.place o.place).map (·.visit.node)) ∧
    ∀ (σ : Type) (visit : Visit → σ → Bool × σ) (state : σ), Block.walk visit body state =
      ((Block.occurrences body).foldl (Occurrence.step visit) (state, [])).1 := by
  have parts : Block.occurrences body =
      partOccurrences [] (fun _ => []) 0 ((Node.stmtParts body).map Node.outlinePart) := by
    rw [Block.occurrences, stmtOutlines_eq]
  refine ⟨?_, ?_, ?_, ?_⟩
  · rw [parts, Node.map_visit_partOccurrences]
    · exact List.flatMap_map ..
    · intro p _ place
      exact Node.map_visit_occurrences p.2 place []
  · exact nodup_partOccurrences (fun p _ => p.2.nodup_places) _ _ _
  · intro o ho
    exact enclosing_partOccurrences (fun p _ => p.2.enclosing_eq) (fun _ => rfl) ho
  · intro σ visit state
    have walk : Block.walk visit body state =
        (Node.stmtParts body).foldl (fun state p => (p.2.walk visit ([], state)).2) state := by
      rw [Block.walk_eq, Node.stmtParts, List.foldl_map]
    obtain ⟨new, _, run⟩ := foldl_partOccurrences (fun _ => [])
      (fun p _ => runsAsWalk visit [] p.2) [] 0 state [] fun i _ r hr => absurd hr List.not_mem_nil
    rw [walk, parts, run]

namespace Sample

/-- A statement with a closure, and one that reads a field. -/
def withClosure : Block :=
  [.expr (.call (.ident "each") [.funcLit [.expr (.ident "inner")]]),
   .expr (.selector (.ident "user") "Email")]

/-- Whether a node is a closure. -/
def isClosure : Node → Bool
  | .expr (.funcLit _) => true
  | _ => false

/-- Lists the identifiers, without those in closures. -/
def namesOutside (v : Visit) (names : List String) : Bool × List String :=
  (!isClosure v.node, names ++ (v.node.expr?.bind Expr.ident?).toList)

end Sample

/-- A walk that refuses the closure passes over the name in it, and goes on with the next statement. That
    name stands inside of four nodes. -/
theorem walk_visits_around_closure :
    Block.walk Sample.namesOutside Sample.withClosure [] = ["each", "user"] ∧
      ∃ o ∈ Block.occurrences Sample.withClosure, o.place = [0, 0, 1, 0, 0] ∧
        o.visit.enclosing.map Sample.isClosure = [false, false, true, false] := by
  obtain ⟨_, _, inside, run⟩ := walk_visits_unrefused Sample.withClosure
  refine ⟨?_, ?_⟩
  · rw [run]
    decide +kernel
  · obtain ⟨o, ho, e⟩ : ∃ o ∈ Block.occurrences Sample.withClosure, o.place = [0, 0, 1, 0, 0] := by
      decide +kernel
    refine ⟨o, ho, e, ?_⟩
    rw [inside o ho, e]
    decide +kernel

end FieldAudit
