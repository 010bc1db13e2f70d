import Mathlib
import FieldAudit.Check
import FieldAudit.Proofs.StableSort

/-!
# Loading files

A program is made from the files that can be read, in the order of their paths. The order in which the
paths are given does not matter, since paths that the sorting does not tell apart lead to one file;
and a path whose file cannot be read leaves no trace, neither in the files nor in the types and the
package directories that are made from them.
-/

namespace FieldAudit

/-- A result that is there is no error. -/
lemma eq_ok_of_toOption {ε α : Type} {x : Except ε α} {a : α} (h : x.toOption = some a) :
    x = .ok a := by
  cases x with
  | error e => cases h
  | ok b => exact congrArg Except.ok (Option.some.inj h)

namespace Files

namespace Route

/-- The place of a step in the order of steps. -/
def rank : Step → Nat ×ₗ String
  | .here => toLex (0, "")
  | .up => toLex (1, "")
  | .down name => toLex (2, name)

/-- Different steps have different places in the order. -/
lemma rank_injective : Function.Injective rank := by
  intro a b h
  cases a <;> cases b <;> simp_all [rank]

/-- The comparison of steps is that of their places. -/
lemma stepLe_iff (a b : Step) : stepLe a b = true ↔ ¬ rank b < rank a := by
  cases a <;> cases b <;> simp [stepLe, rank, Prod.Lex.toLex_lt_toLex]

/-- The steps of a path by their places in the order. -/
def ranks (p : Route) : List (Nat ×ₗ String) := p.map rank

/-- Different paths have different lists of places. -/
lemma ranks_injective : Function.Injective ranks := List.map_injective_iff.2 rank_injective

/-- The comparison of paths is the lexicographic one of their places. -/
lemma le_iff (p q : Route) : p.le q = true ↔ p.ranks ≤ q.ranks := by
  rw [← not_lt]
  induction p generalizing q with
  | nil => simp [le, ranks]
  | cons a p ih =>
    cases q with
    | nil => simp [le, ranks]
    | cons b q =>
      simp only [ranks, List.map_cons, List.cons_lt_cons_iff]
      by_cases h : a = b
      · subst h
        simpa [le, ranks] using ih q
      · have hr : rank b ≠ rank a := fun e => h (rank_injective e).symm
        simpa [le, h, hr] using stepLe_iff a b

/-- The order of paths is that of the places of their steps. -/
lemma le_moves_eq : (fun p q : Route => p.moves.le q.moves) = byKey fun p => p.moves.ranks := by
  funext p q
  rw [Bool.eq_iff_iff, le_iff, byKey_iff]

/-- The moves of a path are those of its parts. -/
lemma moves_append (p q : Route) : (p ++ q).moves = p.moves ++ q.moves := List.filter_append ..

end Route

namespace Entry

variable {top : Entry}

/-- Where a path leads, its moves alone lead as well. -/
lemma locateFrom_moves {path : Route} {start place : List String}
    (h : top.locateFrom start path = .ok place) : top.locateFrom start path.moves = .ok place := by
  induction path generalizing start with
  | nil => exact h
  | cons step path ih =>
    cases hg : top.get? start with
    | none =>
      simp only [locateFrom, hg] at h
      cases h
    | some entry =>
      cases entry with
      | file content =>
        simp only [locateFrom, hg] at h
        cases h
      | dir children =>
        cases step with
        | here =>
          simp only [locateFrom, hg] at h
          exact ih h
        | up =>
          simp only [locateFrom, hg] at h
          have hm : Route.moves (.up :: path) = .up :: Route.moves path := rfl
          rw [hm]
          simp only [locateFrom, hg]
          exact ih h
        | down name =>
          simp only [locateFrom, hg] at h
          have hm : Route.moves (.down name :: path) = .down name :: Route.moves path := rfl
          rw [hm]
          simp only [locateFrom, hg]
          by_cases hc : (Entries.find? name children).isSome = true
          · rw [if_pos hc] at h ⊢
            exact ih h
          · rw [if_neg hc] at h
            cases h

/-- The content that is read is that of a file to which the path leads. -/
lemma readBytes_eq_ok {path : Route} {content : List UInt8} (h : top.readBytes path = .ok content) :
    ∃ place, top.locate path = .ok place ∧ top.get? place = some (.file content) := by
  cases hl : top.locate path with
  | error e =>
    simp only [readBytes, find, hl, bind, Except.bind] at h
    cases h
  | ok place =>
    refine ⟨place, rfl, ?_⟩
    cases hg : top.get? place with
    | none =>
      simp only [readBytes, find, hl, bind, Except.bind, hg] at h
      cases h
    | some entry =>
      simp only [readBytes, find, hl, bind, Except.bind, hg] at h
      cases entry with
      | file content' =>
        cases h
        rfl
      | dir children => cases h

/-- Paths with the same moves that can both be read have the same content. -/
lemma readBytes_of_moves_eq {p q : Route} {a b : List UInt8} (hm : p.moves = q.moves)
    (hp : top.readBytes p = .ok a) (hq : top.readBytes q = .ok b) : a = b := by
  obtain ⟨x, hx, ha⟩ := readBytes_eq_ok hp
  obtain ⟨y, hy, hb⟩ := readBytes_eq_ok hq
  have hx := locateFrom_moves hx
  have hy := locateFrom_moves hy
  rw [hm, hy] at hx
  obtain rfl := Except.ok.inj hx
  rw [hb] at ha
  cases ha
  rfl

end Entry

end Files

namespace Program

open Files

variable {read : FileReader} {top : Entry} {base : Route}

/-- A file that can be read has a content from which the reader makes its source. -/
lemma readFile?_eq_some {path : Route} {file : ProgramFile}
    (h : readFile? read top base path = some file) :
    ∃ content source, top.readBytes (base ++ path) = .ok content ∧
      read (base ++ path).moves content = some source ∧
      file = ⟨path.toText, path.parent.toText, source⟩ := by
  obtain ⟨content, hc, h⟩ := Option.bind_eq_some_iff.1 h
  obtain ⟨source, hs, rfl⟩ := Option.map_eq_some_iff.1 h
  exact ⟨content, source, eq_ok_of_toOption hc, hs, rfl⟩

/-- Paths with the same moves that can both be read give the same file. -/
lemma readFile?_of_moves_eq {p q : Route} {f g : ProgramFile} (hm : p.moves = q.moves)
    (hf : readFile? read top base p = some f) (hg : readFile? read top base q = some g) : f = g := by
  obtain ⟨a, s, ha, hs, rfl⟩ := readFile?_eq_some hf
  obtain ⟨b, t, hb, ht, rfl⟩ := readFile?_eq_some hg
  have he : (base ++ p).moves = (base ++ q).moves := by
    rw [Route.moves_append, Route.moves_append, hm]
  obtain rfl := Entry.readBytes_of_moves_eq he ha hb
  rw [he] at hs
  obtain rfl := Option.some.inj (hs.symm.trans ht)
  simp only [Route.toText, Route.parent, hm]

/-- A path leads to a file that can be read. -/
def isReadable (read : FileReader) (top : Entry) (base path : Route) : Bool :=
  (readFile? read top base path).isSome

/-- A file that can be read, with the moves that lead to it. -/
def readAt? (read : FileReader) (top : Entry) (base path : Route) : Option (Route × ProgramFile) :=
  (readFile? read top base path).map fun file => (path.moves, file)

/-- The files of a program are those that can be read, sorted by the moves that lead to them. -/
lemma files_load (paths : List Route) :
    (load read top base paths).files =
      ((paths.filterMap (readAt? read top base)).mergeSort (byKey fun e => e.1.ranks)).map (·.2) := by
  have hread : readFile? read top base = fun path => (readAt? read top base path).map (·.2) := by
    funext path
    simp [readAt?]
  have hkey : ∀ path e, readAt? read top base path = some e → e.1.ranks = path.moves.ranks := by
    intro path e he
    obtain ⟨file, _, rfl⟩ := Option.map_eq_some_iff.1 he
    rfl
  change (paths.mergeSort fun a b => a.moves.le b.moves).filterMap (readFile? read top base) = _
  rw [Route.le_moves_eq, hread, ← List.map_filterMap, filterMap_mergeSort_byKey hkey]

/-- Two lists of paths with the same files that can be read, in any order, give the same files. -/
lemma files_load_of_perm {paths others : List Route}
    (h : (others.filterMap (readAt? read top base)).Perm (paths.filterMap (readAt? read top base))) :
    (load read top base others).files = (load read top base paths).files := by
  have hinj : ∀ x ∈ others.filterMap (readAt? read top base),
      ∀ y ∈ others.filterMap (readAt? read top base), x.1.ranks = y.1.ranks → x = y := by
    intro x hx y hy hr
    obtain ⟨p, _, hp⟩ := List.mem_filterMap.1 hx
    obtain ⟨q, _, hq⟩ := List.mem_filterMap.1 hy
    obtain ⟨f, hf, rfl⟩ := Option.map_eq_some_iff.1 hp
    obtain ⟨g, hg, rfl⟩ := Option.map_eq_some_iff.1 hq
    have hm : p.moves = q.moves := Route.ranks_injective hr
    rw [hm, readFile?_of_moves_eq hm hf hg]
  rw [files_load, files_load, mergeSort_byKey_of_perm_of_inj h hinj]

/-- The program of files that were read. -/
def ofFiles (module : Option String) (files : List ProgramFile) : Program :=
  let resolver : Resolver := .ofDirs module (files.map (·.packageDir))
  { files, resolver, table := declare resolver files }

/-- A program depends on the files that were read and the path of the module alone. -/
lemma load_eq (paths : List Route) :
    load read top base paths = ofFiles (modulePath? top base) (load read top base paths).files := rfl

/-- Two lists of paths with the same files that can be read, in any order, give the same program. -/
lemma load_of_perm {paths others : List Route}
    (h : (others.filterMap (readAt? read top base)).Perm (paths.filterMap (readAt? read top base))) :
    load read top base others = load read top base paths := by
  rw [load_eq others, load_eq paths, files_load_of_perm h]

/-- The order in which paths are given does not matter to the program that is loaded, and a path whose
    file cannot be read might as well be left out: files, types and package directories are the same,
    and so is the outcome of a run. This holds however the content of a file is read. -/
theorem load_insensitive (read : FileReader) (top : Entry) (base : Route) (paths : List Route) :
    (∀ others : List Route, others.Perm paths →
      load read top base others = load read top base paths ∧
        ∀ settings, (load read top base others).check settings =
          (load read top base paths).check settings) ∧
    load read top base (paths.filter (isReadable read top base)) = load read top base paths ∧
      ∀ settings, (load read top base (paths.filter (isReadable read top base))).check settings =
        (load read top base paths).check settings := by
  constructor
  · intro others h
    have hl : load read top base others = load read top base paths :=
      load_of_perm (h.filterMap _)
    exact ⟨hl, fun settings => by rw [hl]⟩
  · have hr : (paths.filter (isReadable read top base)).filterMap (readAt? read top base)
        = paths.filterMap (readAt? read top base) := by
      rw [List.filterMap_filter]
      congr
      funext path
      cases hf : readFile? read top base path with
      | none => simp [isReadable, readAt?, hf]
      | some file => simp [isReadable, readAt?, hf]
    have hl : load read top base (paths.filter (isReadable read top base))
        = load read top base paths := load_of_perm (by rw [hr])
    exact ⟨hl, fun settings => by rw [hl]⟩

end Program

namespace Sample

open Files

/-- A file with plain characters. -/
def plainFile (text : String) : Entry := .file (text.toList.map fun c => UInt8.ofNat c.toNat)

/-- A module with two packages below `svc`, one of which imports the other, and with a file that is no
    source file. A type of the imported package is declared twice. -/
def tree : Entry :=
  .dir [("go.mod", plainFile "module example.com/app\n"),
    ("svc", .dir [
      ("broken.go", plainFile ")"),
      ("dto", .dir [
        ("dto.go", plainFile "package dto\ntype User string\n"),
        ("user.go", plainFile "package dto\ntype User int\n")]),
      ("main.go", plainFile "package main\nimport dto \"example.com/app/svc/dto\"\n")])]

/-- The way to the directory that is audited. -/
def root : Route := [.down "svc"]

/-- The source files of the sample and the broken one, in no order. -/
def unordered : List Route :=
  [[.down "main.go"], [.down "dto", .down "user.go"], [.down "broken.go"],
   [.down "dto", .down "dto.go"]]

/-- The program of files of the sample. -/
def load (paths : List Route) : Program := .load Program.readSource tree root paths

end Sample

/-- The files of the sample are loaded alike the other way round and without the broken one. -/
theorem load_insensitive_sample :
    Sample.unordered.map (Program.isReadable Program.readSource Sample.tree Sample.root)
        = [true, true, false, true] ∧
      Sample.load Sample.unordered.reverse = Sample.load Sample.unordered ∧
      Sample.load [[.down "main.go"], [.down "dto", .down "user.go"], [.down "dto", .down "dto.go"]]
        = Sample.load Sample.unordered := by
  obtain ⟨hperm, hreadable, _⟩ :=
    Program.load_insensitive Program.readSource Sample.tree Sample.root Sample.unordered
  have hf : Sample.unordered.filter (Program.isReadable Program.readSource Sample.tree Sample.root)
      = [[.down "main.go"], [.down "dto", .down "user.go"], [.down "dto", .down "dto.go"]] := by
    decide +kernel
  rw [hf] at hreadable
  exact ⟨by decide +kernel, (hperm _ (List.reverse_perm _)).1, hreadable⟩

end FieldAudit
