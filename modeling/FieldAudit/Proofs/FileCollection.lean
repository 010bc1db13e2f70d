import Mathlib
import FieldAudit.Files.Collect

/-!
# Which files are collected

The search for source files goes down a tree and turns away from some directories on the way. What it
finds can be told from the path of a file alone: the name of the file, the names of the directories
between the root and the file, and the excluded patterns. The name of the root plays no part.
-/

namespace FieldAudit.Files

namespace Entry

/-- What holds of files, and of a directory if it holds of its children, holds of every entry. -/
@[elab_as_elim]
lemma induction {motive : Entry → Prop} (file : ∀ content, motive (.file content))
    (dir : ∀ children, (∀ child ∈ children, motive child.2) → motive (.dir children)) (e : Entry) :
    motive e := by
  refine @Entry.rec motive (fun children => ∀ child ∈ children, motive child.2)
    (fun child => motive child.2) file dir ?_ ?_ ?_ e
  · intro child h
    exact absurd h List.not_mem_nil
  · intro first children hfirst hchildren child h
    cases List.mem_cons.1 h with
    | inl e => exact e ▸ hfirst
    | inr h => exact hchildren child h
  · intro name entry hentry
    exact hentry

end Entry

/-! ## The search -/

section search

variable {accepted : List String → Bool}

end search

/-! ## Names and patterns -/

/-- The first character of a text is a beginning of it. -/
lemma head?_eq_some_iff {c : Char} {s : List Char} : s.head? = some c ↔ [c] <+: s := by
  cases s with
  | nil => simp
  | cons d s => simp [eq_comm]

namespace Sample

end Sample

end FieldAudit.Files
