import Mathlib
import FieldAudit.Proofs.RunReport

/-!
# The order of the files does not matter

The outcomes of the files of a run may be merged in any order and in any brackets, with empty
outcomes in between. Once the findings are put in order the result is always that of `Program.check`:
findings that the order does not tell apart come from one file, and so they stand as they stood
there.
-/

namespace FieldAudit

namespace Outcome

/-- Merging is associative. -/
lemma merge_assoc (a b c : Outcome) : (a.merge b).merge c = a.merge (b.merge c) := by
  simp [merge, Nat.add_assoc]

/-- An empty outcome before another one adds nothing. -/
@[simp] lemma empty_merge (o : Outcome) : merge {} o = o := by
  simp [merge]

/-- An empty outcome after another one adds nothing. -/
@[simp] lemma merge_empty (o : Outcome) : o.merge {} = o := by
  simp [merge]

end Outcome

/-- A list in brackets: a binary tree with the elements at its leaves, where a leaf may be blank. -/
inductive Bracketing (α : Type) where
  | blank
  | leaf (a : α)
  | node (left right : Bracketing α)

namespace Bracketing

variable {α : Type}

/-- The list without its brackets. -/
def elements : Bracketing α → List α
  | blank => []
  | leaf a => [a]
  | node left right => left.elements ++ right.elements

/-- The merge of the outcomes for the elements, as the brackets say. A blank gives the empty one. -/
def reduce (f : α → Outcome) : Bracketing α → Outcome
  | blank => {}
  | leaf a => f a
  | node left right => (left.reduce f).merge (right.reduce f)

/-- Merging from the left is merging in any other brackets. -/
lemma foldl_merge (f : α → Outcome) (t : Bracketing α) (o : Outcome) :
    (t.elements.map f).foldl Outcome.merge o = o.merge (t.reduce f) := by
  -- the outcome before the list is general, since the left part comes before the right one
  induction t generalizing o with
  | blank => simp [elements, reduce]
  | leaf a => simp [elements, reduce]
  | node left right ihl ihr =>
    rw [elements, List.map_append, List.foldl_append, ihl, ihr, reduce, Outcome.merge_assoc]

end Bracketing

/-- Findings with one key are on one file. -/
lemma Finding.file_eq_of_key_eq {f g : Finding} (h : f.key = g.key) : f.file = g.file :=
  (Prod.ext_iff.1 h).1

namespace Program

variable {p : Program} {settings : Settings}

/-- A reduction in brackets, put in order, is the check of the files as they stand in it. -/
lemma sort_reduce_checkFile (t : Bracketing ProgramFile) :
    (t.reduce (p.checkFile settings)).sort = { p with files := t.elements }.check settings := by
  change _ = ((t.elements.map (p.checkFile settings)).foldl Outcome.merge {}).sort
  rw [t.foldl_merge, Outcome.empty_merge]

/-- The incomplete converters of a file. -/
def incompletesOf (p : Program) (settings : Settings) (file : ProgramFile) : List Incomplete :=
  (p.convertersOf settings file).filterMap (p.incomplete? settings)

/-- The incomplete converters, file by file. -/
lemma incompletes_eq :
    p.incompletes settings = (p.checkedFiles settings).flatMap (p.incompletesOf settings) := by
  rw [incompletes, converters, List.filterMap_flatMap]
  rfl

/-- An incomplete converter of a file has the path of the file. -/
lemma path_of_mem_incompletesOf {file : ProgramFile} {i : Incomplete}
    (h : i ∈ p.incompletesOf settings file) : i.path = file.path := by
  obtain ⟨c, hc, hi⟩ := List.mem_filterMap.1 h
  obtain ⟨decl, _, hd⟩ := List.mem_filterMap.1 hc
  rw [(incomplete?_eq_some.1 hi).1, (converter?_eq_some.1 hd).2.1]

/-- The findings on a file that stand. -/
def findingsOf (p : Program) (settings : Settings) (file : ProgramFile) : List Finding :=
  ((p.incompletesOf settings file).filter (·.isReported)).map (·.finding)

/-- The findings on a file that are silenced. -/
def suppressedOf (p : Program) (settings : Settings) (file : ProgramFile) : List Suppressed :=
  (p.incompletesOf settings file).filterMap (·.suppressed?)

/-- The outcome for a program, file by file. -/
lemma check_eq_flatMap : p.check settings =
    { findings := ((p.checkedFiles settings).flatMap (p.findingsOf settings)).mergeSort
        (byKey Finding.key)
      suppressed := ((p.checkedFiles settings).flatMap (p.suppressedOf settings)).mergeSort
        (byKey (·.finding.key))
      scanned := (p.checkedFiles settings).length
      converters := ((p.checkedFiles settings).flatMap (p.convertersOf settings)).length } := by
  rw [check_eq, incompletes_eq, List.filter_flatMap, List.map_flatMap, List.filterMap_flatMap]
  rfl

/-- A finding on a file has its path for the first part of its key. -/
lemma file_of_mem_findingsOf {file : ProgramFile} {f : Finding}
    (h : f ∈ p.findingsOf settings file) : f.file = file.path := by
  obtain ⟨i, hi, rfl⟩ := List.mem_map.1 h
  exact path_of_mem_incompletesOf (List.mem_of_mem_filter hi)

/-- A silenced finding on a file has its path for the first part of its key. -/
lemma file_of_mem_suppressedOf {file : ProgramFile} {s : Suppressed}
    (h : s ∈ p.suppressedOf settings file) : s.finding.file = file.path := by
  obtain ⟨i, hi, hs⟩ := List.mem_filterMap.1 h
  obtain ⟨reason, _, rfl⟩ := Option.map_eq_some_iff.1 hs
  exact path_of_mem_incompletesOf hi

/-- Files of different paths are looked at in any order with the same outcome. -/
lemma check_of_perm {files : List ProgramFile} (hd : (p.files.map (·.path)).Nodup)
    (hp : files.Perm p.files) : { p with files }.check settings = p.check settings := by
  have hc : (files.filter settings.looksAt).Perm (p.checkedFiles settings) := hp.filter _
  have inj : ∀ x ∈ files.filter settings.looksAt, ∀ y ∈ files.filter settings.looksAt,
      x.path = y.path → x = y := by
    intro x hx y hy e
    apply List.inj_on_of_nodup_map hd _ _ e
    · exact hp.mem_iff.1 (List.mem_of_mem_filter hx)
    · exact hp.mem_iff.1 (List.mem_of_mem_filter hy)
  have hf : ((files.filter settings.looksAt).flatMap (p.findingsOf settings)).mergeSort
        (byKey Finding.key)
      = ((p.checkedFiles settings).flatMap (p.findingsOf settings)).mergeSort
        (byKey Finding.key) := by
    apply mergeSort_byKey_of_perm hc
    intro x hx y hy a ha b hb e
    apply inj x hx y hy
    rw [← file_of_mem_findingsOf ha, ← file_of_mem_findingsOf hb, Finding.file_eq_of_key_eq e]
  have hs : ((files.filter settings.looksAt).flatMap (p.suppressedOf settings)).mergeSort
        (byKey (·.finding.key))
      = ((p.checkedFiles settings).flatMap (p.suppressedOf settings)).mergeSort
        (byKey (·.finding.key)) := by
    apply mergeSort_byKey_of_perm hc
    intro x hx y hy a ha b hb e
    apply inj x hx y hy
    rw [← file_of_mem_suppressedOf ha, ← file_of_mem_suppressedOf hb,
      Finding.file_eq_of_key_eq e]
  have hn : ((files.filter settings.looksAt).flatMap (p.convertersOf settings)).length
      = ((p.checkedFiles settings).flatMap (p.convertersOf settings)).length :=
    (hc.flatMap_right _).length_eq
  rw [check_eq_flatMap (p := p), ← hf, ← hs, ← hc.length_eq, ← hn]
  exact check_eq_flatMap

/-- Merging outcomes is associative and the empty outcome is neutral. Where the files of a program
    have different paths, they may be taken in any order and their outcomes merged in any brackets,
    with empty outcomes in between: put in order, the result is that of the program as it stands, in
    all of its parts and with all findings in the same places. -/
theorem check_order_independent :
    (∀ a b c : Outcome, (a.merge b).merge c = a.merge (b.merge c)) ∧
    (∀ o : Outcome, Outcome.merge {} o = o ∧ o.merge {} = o) ∧
    ∀ (p : Program) (settings : Settings), (p.files.map (·.path)).Nodup →
      ∀ t : Bracketing ProgramFile, t.elements.Perm p.files →
        (t.reduce ({ p with files := t.elements }.checkFile settings)).sort = p.check settings ∧
        { p with files := t.elements }.check settings = p.check settings := by
  refine ⟨Outcome.merge_assoc, fun o => ⟨Outcome.empty_merge o, Outcome.merge_empty o⟩, ?_⟩
  intro p settings hd t hp
  have h : { p with files := t.elements }.check settings = p.check settings := check_of_perm hd hp
  refine ⟨?_, h⟩
  rw [← h]
  exact sort_reduce_checkFile t

end Program

namespace Sample

/-- A program of two files with the same contents, and so with two findings on each. -/
def twoFiles : Program :=
  { files := [incompleteFile, { incompleteFile with path := "account.go" }], table }

/-- The two files the other way round, with blanks before and between them. -/
def swapped : Bracketing ProgramFile :=
  .node .blank (.node (.leaf { incompleteFile with path := "account.go" })
    (.node .blank (.leaf incompleteFile)))

end Sample

/-- The files of the sample differ in their paths and have a finding and a silenced one each; the
    outcome the other way round is the same. -/
theorem check_order_sample :
    (Sample.twoFiles.files.map (·.path)).Nodup ∧
      Sample.swapped.elements.Perm Sample.twoFiles.files ∧
      (Sample.twoFiles.incompletes {}).map (fun i => (i.path, i.isReported)) =
        [("user.go", false), ("user.go", true), ("account.go", false), ("account.go", true)] ∧
      (Sample.swapped.reduce (Sample.twoFiles.checkFile {})).sort = Sample.twoFiles.check {} := by
  have hd : (Sample.twoFiles.files.map (·.path)).Nodup := by decide
  have hp : Sample.swapped.elements.Perm Sample.twoFiles.files := .swap _ _ []
  obtain ⟨_, _, h⟩ := Program.check_order_independent
  exact ⟨hd, hp, by decide +kernel, (h Sample.twoFiles {} hd Sample.swapped hp).1⟩

end FieldAudit
