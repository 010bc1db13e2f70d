import Mathlib
import FieldAudit.Syntax.Node

/-!
# Walks through a body

The nodes of a body as one list, each with the frames around it. A walk hands the stack back as it got
it, so that a visitor sees each node with the frames that the list gives it. A walk that refuses nodes
only once its state is settled, as one does that looks for the first answer, and one that refuses none
at all are runs over the whole list.
-/

namespace FieldAudit

namespace Node

/-- Every node from this one down, parents first and parts in source order. -/
def visits (frames : List Frame) (n : Node) : List Visit :=
  ⟨n, frames⟩ :: n.children.attach.flatMap fun ⟨(role, child), _h⟩ =>
    child.visits (⟨n, role⟩ :: frames)
termination_by sizeOf n
decreasing_by exact sizeOf_lt_of_mem_children _h

/-- The visits of a node are itself and the visits of its parts. -/
lemma visits_eq (frames : List Frame) (n : Node) :
    n.visits frames = ⟨n, frames⟩ :: n.children.flatMap fun p => p.2.visits (⟨n, p.1⟩ :: frames) := by
  rw [visits]
  simp only [List.cons.injEq, true_and]
  conv => rhs; rw [← List.attach_map_subtype_val n.children, List.flatMap_map]

end Node

namespace Block

/-- Every node of a block, parents first, in source order. -/
def visits (body : Block) : List Visit := body.flatMap fun s => (Node.stmt s).visits []

/-- The statements of a block at any depth, in source order. -/
def statements (body : Block) : List Stmt := (Block.visits body).filterMap (·.node.stmt?)

end Block

section

variable {σ : Type} {visit : Visit → σ → Bool × σ}

namespace Node

/-! ## The stack -/

/-- A walk visits the node and, unless it is refused, walks through its parts. -/
lemma walk_eq (visit : Visit → σ → Bool × σ) (n : Node) (run : List Frame × σ) :
    n.walk visit run =
      if (visit ⟨n, run.1⟩ run.2).1 = true then
        n.children.foldl (fun run p =>
          ((p.2.walk visit (⟨n, p.1⟩ :: run.1, run.2)).1.tail,
            (p.2.walk visit (⟨n, p.1⟩ :: run.1, run.2)).2)) (run.1, (visit ⟨n, run.1⟩ run.2).2)
      else (run.1, (visit ⟨n, run.1⟩ run.2).2) := by
  rw [walk]
  cases h : visit ⟨n, run.1⟩ run.2 with
  | mk goesOn state =>
    cases goesOn with
    | false => rfl
    | true =>
      simp only [if_true]
      conv => rhs; rw [← List.attach_map_subtype_val n.children, List.foldl_map]

/-- Parts whose walks hand the stack back are walked through with one stack. -/
lemma foldl_walk_parts {n : Node} {frames : List Frame} {parts : List (Role × Node)}
    (h : ∀ p ∈ parts, ∀ state,
      (p.2.walk visit (⟨n, p.1⟩ :: frames, state)).1 = ⟨n, p.1⟩ :: frames) (state : σ) :
    parts.foldl (fun run p =>
        ((p.2.walk visit (⟨n, p.1⟩ :: run.1, run.2)).1.tail,
          (p.2.walk visit (⟨n, p.1⟩ :: run.1, run.2)).2)) (frames, state) =
      (frames, parts.foldl (fun state p => (p.2.walk visit (⟨n, p.1⟩ :: frames, state)).2) state) := by
  induction parts generalizing state with
  | nil => rfl
  | cons p parts ih =>
    rw [List.foldl_cons, List.foldl_cons, h p List.mem_cons_self state]
    exact ih (fun q hq => h q (List.mem_cons_of_mem p hq)) _

/-- A walk hands the stack back as it got it. -/
lemma walk_frames (n : Node) (frames : List Frame) (state : σ) :
    (n.walk visit (frames, state)).1 = frames := by
  induction frames, n using visits.induct generalizing state with
  | case1 frames n ih =>
    rw [walk_eq]
    split
    · rw [foldl_walk_parts fun p hp state => ih p.1 p.2 hp state]
    · rfl

/-- The state after a walk, with the frames around each node read off the tree. -/
lemma walk_state (visit : Visit → σ → Bool × σ) (n : Node) (frames : List Frame) (state : σ) :
    (n.walk visit (frames, state)).2 =
      if (visit ⟨n, frames⟩ state).1 = true then
        n.children.foldl (fun state p => (p.2.walk visit (⟨n, p.1⟩ :: frames, state)).2)
          (visit ⟨n, frames⟩ state).2
      else (visit ⟨n, frames⟩ state).2 := by
  rw [walk_eq]
  split
  · rw [foldl_walk_parts fun p _ state => walk_frames p.2 _ state]
  · rfl

/-! ## Walks over all nodes -/

/-- A state that no visit changes is the state after all of them. -/
lemma foldl_settled {state : σ} (h : ∀ v, (visit v state).2 = state) (vs : List Visit) :
    vs.foldl (fun state v => (visit v state).2) state = state := by
  induction vs with
  | nil => rfl
  | cons v vs ih => rw [List.foldl_cons, h, ih]

/-- A walk that refuses nodes only once its state is settled visits, in effect, all nodes. -/
lemma walk_state_eq_foldl
    (settled : ∀ state v, (visit v state).1 = false → ∀ w, (visit w state).2 = state)
    (n : Node) (frames : List Frame) (state : σ) :
    (n.walk visit (frames, state)).2 =
      (n.visits frames).foldl (fun state v => (visit v state).2) state := by
  induction frames, n using visits.induct generalizing state with
  | case1 frames n ih =>
    rw [walk_state, visits_eq, List.foldl_cons, List.foldl_flatMap]
    split
    · apply List.foldl_ext
      intro state p hp
      exact ih p.1 p.2 hp state
    · rename_i refused
      have stays := settled state ⟨n, frames⟩ (Bool.eq_false_iff.2 refused)
      rw [stays, ← List.foldl_flatMap, foldl_settled stays]

end Node

namespace Block

/-- The statements of a block are walked through one after the other, each from an empty stack on. -/
lemma walk_eq (visit : Visit → σ → Bool × σ) (body : Block) (state : σ) :
    Block.walk visit body state =
      body.foldl (fun state s => ((Node.stmt s).walk visit ([], state)).2) state := by
  have run (run : List Frame × σ) (h : run.1 = []) :
      body.foldl (fun run s => (Node.stmt s).walk visit run) run =
        ([], body.foldl (fun state s => ((Node.stmt s).walk visit ([], state)).2) run.2) := by
    induction body generalizing run with
    | nil => exact Prod.ext h rfl
    | cons s body ih =>
      obtain ⟨frames, state⟩ := run
      subst h
      exact ih _ (Node.walk_frames (.stmt s) [] state)
  rw [Block.walk, run _ rfl]

/-- A walk that refuses nodes only once its state is settled visits, in effect, all nodes. -/
lemma walk_eq_foldl
    (settled : ∀ state v, (visit v state).1 = false → ∀ w, (visit w state).2 = state)
    (body : Block) (state : σ) :
    Block.walk visit body state =
      (Block.visits body).foldl (fun state v => (visit v state).2) state := by
  rw [walk_eq, visits, List.foldl_flatMap]
  congr 1
  funext state s
  exact Node.walk_state_eq_foldl settled (.stmt s) [] state

/-- A walk that refuses nothing visits all nodes. -/
lemma walk_all (step : Visit → σ → σ) (body : Block) (state : σ) :
    Block.walk (fun v state => (true, step v state)) body state =
      (Block.visits body).foldl (fun state v => step v state) state :=
  walk_eq_foldl (fun _ _ h => Bool.noConfusion h) body state

/-- A walk that stops at the first answer finds the first one of the list. -/
lemma findStmt?_eq {α : Type} (answer : Stmt → Option α) (body : Block) :
    Block.findStmt? answer body = (Block.statements body).findSome? answer := by
  have first (vs : List Visit) (found : Option α) :
      vs.foldl (fun found v => found.or (v.node.stmt?.bind answer)) found =
        found.or ((vs.filterMap (·.node.stmt?)).findSome? answer) := by
    induction vs generalizing found with
    | nil => exact (Option.or_none).symm
    | cons v vs ih =>
      rw [List.foldl_cons, ih, Option.or_assoc]
      congr 1
      cases hs : v.node.stmt? with
      | none => simp [hs]
      | some s => cases ha : answer s <;> simp [hs, ha]
  rw [findStmt?, walk_eq_foldl, first, Option.none_or, statements]
  intro found v refused w
  cases found with
  | none => cases refused
  | some a => rfl

/-- A walk that stops at the first node with a property tells whether there is one. -/
lemma walk_any (p : Node → Bool) (body : Block) :
    Block.walk (fun v found => (!found, found || p v.node)) body false =
      (Block.visits body).any (p ·.node) := by
  have any (vs : List Visit) (found : Bool) :
      vs.foldl (fun found v => found || p v.node) found = (found || vs.any (p ·.node)) := by
    induction vs generalizing found with
    | nil => exact (Bool.or_false found).symm
    | cons v vs ih => rw [List.foldl_cons, ih, List.any_cons, Bool.or_assoc]
  rw [walk_eq_foldl, any, Bool.false_or]
  intro found v refused w
  cases found with
  | false => cases refused
  | true => rfl

/-- A state threaded through the statements of a block goes over the list of them. -/
lemma foldStmts_eq (step : σ → Stmt → σ) (body : Block) (state : σ) :
    Block.foldStmts step body state = (Block.statements body).foldl step state := by
  rw [foldStmts, walk_all, statements, List.foldl_filterMap]
  congr 1
  funext state v
  cases v.node.stmt? <;> rfl

end Block

end

end FieldAudit
