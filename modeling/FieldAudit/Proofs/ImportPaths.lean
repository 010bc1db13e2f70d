import Mathlib
import FieldAudit.Types.Resolve

/-!
# Import paths and package directories

An import path below the module names a package directory by what follows the path of the module.
Any other path is held against the ends of paths: the longest package directory that makes up its
last segments is taken, and the path stands for itself only if there is none. This comparison is made
whether or not the path of the module is known.
-/

namespace FieldAudit

/-- The path of a directory below a place. The place itself is the empty directory. -/
def joinPath (place dir : String) : String := if dir = "" then place else place ++ "/" ++ dir

/-- A directory makes up the last segments of a path, all of them or some. -/
def IsTail (dir path : String) : Prop := dir ≠ "" ∧ (path = dir ∨ ∃ front, path = front ++ "/" ++ dir)

namespace Resolver

variable {r : Resolver} {module path dir : String}

/-- A path below a module is not that of the module. -/
lemma below_ne_module : module ++ "/" ++ dir ≠ module := by
  intro h
  have hl := congrArg String.length h
  simp only [String.length_append] at hl
  have h1 : "/".length = 1 := rfl
  omega

/-- A path that does not start with the module is none below it. -/
lemma ne_below_of_startsWith
    (h : Text.startsWith path.toList (module.toList ++ ['/']) = false) (rest : String) :
    path ≠ module ++ "/" ++ rest := by
  rintro rfl
  rw [Bool.eq_false_iff, ne_eq, Text.startsWith_iff] at h
  exact h ⟨rest.toList, by simp⟩

/-- What follows the module in a path is the directory below it. -/
lemma afterStart?_below :
    (Text.afterStart? (module.toList ++ ['/']) path.toList).map String.ofList = some dir ↔
      path = module ++ "/" ++ dir := by
  simp only [Option.map_eq_some_iff, Text.afterStart?_eq_some]
  constructor
  · rintro ⟨rest, h, rfl⟩
    apply String.toList_inj.1
    simpa using h
  · rintro rfl
    exact ⟨dir.toList, by simp, by simp⟩

/-- A path is found below the module if it is that of the module or of a package directory in it. -/
lemma inModule?_eq_some :
    r.inModule? path = some dir ↔ ∃ module, r.modulePath = some module ∧
      (path = module ∧ dir = "" ∨ path = module ++ "/" ++ dir ∧ dir ∈ r.packageDirs) := by
  simp only [inModule?, Option.bind_eq_some_iff]
  constructor
  · rintro ⟨module, hm, h⟩
    refine ⟨module, hm, ?_⟩
    by_cases hp : path = module
    · rw [if_pos hp] at h
      exact .inl ⟨hp, (Option.some.inj h).symm⟩
    · rw [if_neg hp, Option.filter_eq_some_iff, afterStart?_below] at h
      exact .inr ⟨h.1, by simpa using h.2⟩
  · rintro ⟨module, hm, h⟩
    refine ⟨module, hm, ?_⟩
    rcases h with ⟨rfl, rfl⟩ | ⟨rfl, hd⟩
    · exact if_pos rfl
    · rw [if_neg below_ne_module, Option.filter_eq_some_iff, afterStart?_below]
      exact ⟨rfl, by simpa using hd⟩

/-- A package directory of the module is what its own path stands for, whatever other directories
    there are. -/
lemma packageOf_joinPath (hm : r.modulePath = some module) (hd : dir ∈ r.packageDirs) :
    r.packageOf (joinPath module dir) = dir := by
  have h : r.inModule? (joinPath module dir) = some dir := by
    rw [inModule?_eq_some]
    refine ⟨module, hm, ?_⟩
    by_cases he : dir = ""
    · exact .inl ⟨if_pos he, he⟩
    · exact .inr ⟨if_neg he, hd⟩
  rw [packageOf, h]
  rfl

/-! ## Directories at the end of a path -/

/-- The test for the end of a path decides whether the directory is a tail of it. -/
lemma endsPath_iff : endsPath path dir = true ↔ IsTail dir path := by
  simp only [endsPath, IsTail, Bool.and_eq_true, Bool.or_eq_true, bne_iff_ne, beq_iff_eq,
    Text.endsWith_iff]
  refine and_congr_right fun _ => or_congr_right ?_
  constructor
  · rintro ⟨front, h⟩
    refine ⟨.ofList front, ?_⟩
    apply String.toList_inj.1
    simpa using h.symm
  · rintro ⟨front, rfl⟩
    exact ⟨front.toList, by simp⟩

/-- A directory that ends a path and is as long is the path. -/
lemma eq_of_isTail_of_size_le (h : IsTail dir path) (hs : path.utf8ByteSize ≤ dir.utf8ByteSize) :
    dir = path := by
  rcases h.2 with rfl | ⟨front, rfl⟩
  · rfl
  · simp only [String.utf8ByteSize_append] at hs
    have h1 : "/".utf8ByteSize = 1 := rfl
    omega

/-- The longest of the package directories that make up the last segments of a path. -/
structure LongestTail (r : Resolver) (dir path : String) : Prop where
  mem : dir ∈ r.packageDirs
  isTail : IsTail dir path
  longest : ∀ other ∈ r.packageDirs, IsTail other path → other.utf8ByteSize ≤ dir.utf8ByteSize

/-- The longer of two directories, if there are two; the later one if they are as long. -/
def longer (best : Option String) (dir : String) : Option String :=
  best.elim (some dir) fun b => if b.utf8ByteSize ≤ dir.utf8ByteSize then some dir else some b

/-- The directory that ends a path is found by keeping the longer one of each two. -/
lemma bySuffix?_eq (r : Resolver) (path : String) :
    r.bySuffix? path = (r.packageDirs.toList.filter (endsPath path)).foldl longer none := by
  unfold bySuffix?
  congr
  funext best dir
  cases best <;> rfl

/-- Going through a list, the longest directory so far is kept. -/
lemma foldl_longer (dirs : List String) (first : String) :
    ∃ best ∈ first :: dirs, dirs.foldl longer (some first) = some best ∧
      ∀ dir ∈ first :: dirs, dir.utf8ByteSize ≤ best.utf8ByteSize := by
  induction dirs generalizing first with
  | nil => exact ⟨first, List.mem_cons_self, rfl, by simp⟩
  | cons dir dirs ih =>
    rw [List.foldl_cons]
    by_cases h : first.utf8ByteSize ≤ dir.utf8ByteSize
    · obtain ⟨best, hb, e, hl⟩ := ih dir
      refine ⟨best, List.mem_cons_of_mem _ hb, by simpa [longer, h] using e, ?_⟩
      rw [List.forall_mem_cons]
      exact ⟨h.trans (hl dir List.mem_cons_self), hl⟩
    · obtain ⟨best, hb, e, hl⟩ := ih first
      obtain ⟨hf, hl⟩ := List.forall_mem_cons.1 hl
      refine ⟨best, ?_, by simpa [longer, h] using e, ?_⟩
      · rcases List.mem_cons.1 hb with rfl | hb
        · exact List.mem_cons_self
        · exact List.mem_cons_of_mem _ (List.mem_cons_of_mem _ hb)
      · rw [List.forall_mem_cons, List.forall_mem_cons]
        exact ⟨hf, (not_le.1 h).le.trans hf, hl⟩

/-- The two outcomes of the comparison of ends: no package directory ends the path, or the longest one
    that does is taken. -/
lemma bySuffix?_cases (r : Resolver) (path : String) :
    (r.bySuffix? path = none ∧ ∀ dir ∈ r.packageDirs, ¬ IsTail dir path) ∨
      ∃ dir, r.bySuffix? path = some dir ∧ r.LongestTail dir path := by
  have mem_tails (dir : String) : dir ∈ r.packageDirs.toList.filter (endsPath path) ↔
      dir ∈ r.packageDirs ∧ IsTail dir path := by
    rw [List.mem_filter, endsPath_iff, OrderedSet.mem_def]
  rw [bySuffix?_eq]
  cases htails : r.packageDirs.toList.filter (endsPath path) with
  | nil =>
    refine .inl ⟨rfl, fun dir hd ht => ?_⟩
    have hmem := (mem_tails dir).2 ⟨hd, ht⟩
    rw [htails] at hmem
    cases hmem
  | cons first dirs =>
    obtain ⟨best, hb, e, hl⟩ := foldl_longer dirs first
    rw [htails] at mem_tails
    obtain ⟨hmem, htail⟩ := (mem_tails best).1 hb
    exact .inr ⟨best, e, hmem, htail, fun other ho ht => hl other ((mem_tails other).2 ⟨ho, ht⟩)⟩

/-- A path that is not found below the module is compared by its end. -/
lemma packageOf_of_not_inModule (hne : r.modulePath ≠ some path)
    (hout : ∀ module, r.modulePath = some module → ∀ dir ∈ r.packageDirs,
      path ≠ module ++ "/" ++ dir) : r.packageOf path = (r.bySuffix? path).getD path := by
  have h : r.inModule? path = none := by
    rw [Option.eq_none_iff_forall_ne_some]
    intro dir hd
    obtain ⟨module, hm, h⟩ := inModule?_eq_some.1 hd
    rcases h with ⟨rfl, _⟩ | ⟨e, hdir⟩
    · exact hne hm
    · exact hout module hm dir hdir e
  rw [packageOf, h, Option.none_or]

/-- A path outside of the module is compared by its end, as if the module were not known. -/
lemma packageOf_of_outside (hm : r.modulePath = some module) (hne : path ≠ module)
    (hout : ∀ rest, path ≠ module ++ "/" ++ rest) :
    r.packageOf path = (r.bySuffix? path).getD path := by
  apply packageOf_of_not_inModule
  · intro hp
    exact hne (Option.some.inj (hp.symm.trans hm))
  · intro module' hm' dir _
    obtain rfl : module = module' := Option.some.inj (hm.symm.trans hm')
    exact hout dir

/-- An import path outside of a known module is looked up as if the module were not known. It stands
    for itself exactly if it is a package directory or none makes up its last segments; else the
    longest package directory that does so is taken for it. -/
theorem packageOf_outside (hm : r.modulePath = some module) (hne : path ≠ module)
    (hout : ∀ rest, path ≠ module ++ "/" ++ rest) :
    r.packageOf path = { r with modulePath := none }.packageOf path ∧
      (r.packageOf path = path ↔
        path ∈ r.packageDirs ∨ ∀ dir ∈ r.packageDirs, ¬ IsTail dir path) ∧
      ∀ dir ∈ r.packageDirs, IsTail dir path → r.LongestTail (r.packageOf path) path := by
  rw [packageOf_of_outside hm hne hout]
  refine ⟨rfl, ?_⟩
  rcases bySuffix?_cases r path with ⟨e, hnone⟩ | ⟨best, e, hb⟩
  · rw [e, Option.getD_none]
    refine ⟨⟨fun _ => .inr hnone, fun _ => rfl⟩, fun dir hd ht => absurd ht (hnone dir hd)⟩
  · rw [e, Option.getD_some]
    refine ⟨⟨?_, ?_⟩, fun _ _ _ => hb⟩
    · rintro rfl
      exact .inl hb.mem
    · rintro (hp | hnone)
      · -- the path ends itself, so nothing longer can have been taken
        have hne' : path ≠ "" := by
          rintro rfl
          exact hb.isTail.1 (eq_of_isTail_of_size_le hb.isTail (Nat.zero_le _))
        exact eq_of_isTail_of_size_le hb.isTail (hb.longest path hp ⟨hne', .inl rfl⟩)
      · exact absurd hb.isTail (hnone best hb.mem)

end Resolver

namespace Sample

/-- A module with three packages, where the directory of one ends that of another. -/
def resolver : Resolver :=
  { modulePath := some "example.com/app", packageDirs := .ofList ["", "dto", "models/dto"] }

end Sample

/-- Of two directories that end a path the longer one is taken, and a path that none of them ends
    stands for itself. -/
theorem packageOf_outside_sample :
    IsTail "dto" "github.com/other/models/dto" ∧
      Sample.resolver.LongestTail (Sample.resolver.packageOf "github.com/other/models/dto")
        "github.com/other/models/dto" ∧
      (∀ dir ∈ Sample.resolver.packageDirs, ¬ IsTail dir "time") ∧
      Sample.resolver.packageOf "time" = "time" := by
  have ht : IsTail "dto" "github.com/other/models/dto" := Resolver.endsPath_iff.1 (by decide)
  have hm : Sample.resolver.modulePath = some "example.com/app" := rfl
  obtain ⟨_, _, h⟩ := Resolver.packageOf_outside hm
    (show "github.com/other/models/dto" ≠ "example.com/app" by decide)
    (Resolver.ne_below_of_startsWith (by decide))
  obtain ⟨_, hiff, _⟩ := Resolver.packageOf_outside hm (show "time" ≠ "example.com/app" by decide)
    (Resolver.ne_below_of_startsWith (by decide))
  have hn : ∀ dir ∈ Sample.resolver.packageDirs, ¬ IsTail dir "time" := by
    intro dir hd
    rw [← Resolver.endsPath_iff]
    revert dir
    change ∀ dir ∈ Sample.resolver.packageDirs.toList, ¬ Resolver.endsPath "time" dir = true
    decide +kernel
  exact ⟨ht, h "dto" (by decide +kernel) ht, hn, hiff.2 (.inr hn)⟩

/-- A package of another module is taken for the directory of its last name. -/
theorem packageOf_outside_taken_for_dir :
    "github.com/other/dto" ≠ "example.com/app" ∧
      (∀ rest, "github.com/other/dto" ≠ "example.com/app" ++ "/" ++ rest) ∧
      Sample.resolver.modulePath = some "example.com/app" ∧
      Sample.resolver.packageOf "github.com/other/dto" = "dto" := by
  refine ⟨by decide, Resolver.ne_below_of_startsWith (by decide), rfl, ?_⟩
  decide +kernel

end FieldAudit
