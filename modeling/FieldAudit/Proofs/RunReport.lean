import Mathlib
import FieldAudit.Check
import FieldAudit.Proofs.Judgement
import FieldAudit.Proofs.StableSort

/-!
# What a run reports

A run goes through the functions of the files that it looks at. Some of them are converters, and
some of these are incomplete: there is a finding for each one of those, silenced if its function
carries a directive, and for nothing else. The doc comment of a function bears on its own finding
only.
-/

namespace FieldAudit

/-- The order of findings is that of file, line and function, in this order. -/
def Finding.key (f : Finding) : String ×ₗ Nat ×ₗ String :=
  toLex (f.file, toLex (f.line, f.function))

/-- Findings are ordered by their keys. -/
lemma Finding.le_eq : Finding.le = byKey Finding.key := by
  funext a b
  rw [Bool.eq_iff_iff]
  simp only [Finding.le, Finding.key, byKey_iff, Prod.Lex.toLex_le_toLex, Bool.or_eq_true,
    Bool.and_eq_true, Bool.not_eq_true', decide_eq_true_eq, decide_eq_false_iff_not, beq_iff_eq,
    not_lt]

/-- The finding on a function of a file. -/
def FuncDecl.finding (decl : FuncDecl) (path : String) (verdict : Verdict) : Finding :=
  { file := path, line := decl.nameSpan.start.row + 1, column := decl.nameSpan.start.column + 1
    function := decl.qualifiedName, verdict }

/-- A function that is a converter, with its file and its signature. -/
structure Converter where
  path : String
  decl : FuncDecl
  sig : Signature

/-- A converter with a verdict that is not valid. -/
structure Incomplete where
  path : String
  decl : FuncDecl
  verdict : Verdict

namespace Incomplete

/-- The finding on an incomplete converter. -/
def finding (i : Incomplete) : Finding := i.decl.finding i.path i.verdict

/-- The finding on an incomplete converter, with the reason for which it is silenced, if it is. -/
def suppressed? (i : Incomplete) : Option Suppressed :=
  i.decl.suppression?.map fun reason => { finding := i.finding, reason }

/-- Whether no directive silences the finding on an incomplete converter. -/
def isReported (i : Incomplete) : Bool := i.decl.suppression?.isNone

/-- The findings on incomplete converters are those that stand and those that are silenced. -/
lemma findings_perm (is : List Incomplete) :
    ((is.filter isReported).map finding ++ (is.filterMap suppressed?).map (·.finding)).Perm
      (is.map finding) := by
  induction is with
  | nil => exact .nil
  | cons i is ih =>
    cases h : i.decl.suppression? with
    | none => simpa [isReported, suppressed?, h] using ih
    | some reason => simpa [isReported, suppressed?, h] using List.perm_middle.trans (ih.cons _)

/-- What an incomplete converter without a directive contributes. -/
lemma singleton_of_none {i : Incomplete} (h : i.decl.suppression? = none) :
    ([i].filter isReported).map finding = [i.finding] ∧ [i].filterMap suppressed? = [] := by
  simp [isReported, suppressed?, h]

/-- What an incomplete converter with a directive contributes. -/
lemma singleton_of_some {i : Incomplete} {reason : String} (h : i.decl.suppression? = some reason) :
    ([i].filter isReported).map finding = [] ∧
      [i].filterMap suppressed? = [{ finding := i.finding, reason }] := by
  simp [isReported, suppressed?, h]

end Incomplete

/-- Whether a file is looked at: it is not generated, or the settings ask for generated files. -/
def Settings.looksAt (settings : Settings) (file : ProgramFile) : Bool :=
  !file.source.generated || settings.includeGenerated

namespace Program

section

variable (p : Program) (settings : Settings)

/-- The files that are looked at. -/
def checkedFiles : List ProgramFile :=
  p.files.filter settings.looksAt

/-- A function as a converter, if it is not skipped, its signature is known, and a source and a
    destination are found in it. -/
def converter? (file : ProgramFile) (decl : FuncDecl) : Option Converter :=
  if settings.skips decl then none
  else ((p.scope file).signature? decl).bind fun sig =>
    (classify settings p.table decl sig.params sig.results).map fun _ => ⟨file.path, decl, sig⟩

/-- The converters of a file. -/
def convertersOf (file : ProgramFile) : List Converter :=
  file.source.functions.filterMap (p.converter? settings file)

/-- The converters of the files that are looked at. -/
def converters : List Converter := (p.checkedFiles settings).flatMap (p.convertersOf settings)

/-- A converter with its verdict, if it has one and that is not valid. -/
def incomplete? (c : Converter) : Option Incomplete :=
  ((judge settings p.table c.decl c.sig).toOption.filter fun v => !v.valid).map
    (⟨c.path, c.decl, ·⟩)

/-- The incomplete converters of the files that are looked at. -/
def incompletes : List Incomplete := (p.converters settings).filterMap (p.incomplete? settings)

end

variable {p : Program} {settings : Settings}

/-- A function is a converter if it is not skipped, its signature is known, and it is given a source
    and a destination. -/
lemma converter?_eq_some {file : ProgramFile} {decl : FuncDecl} {c : Converter} :
    p.converter? settings file decl = some c ↔
      c.decl = decl ∧ c.path = file.path ∧ settings.skips decl = false ∧
      (p.scope file).signature? decl = some c.sig ∧
      (classify settings p.table decl c.sig.params c.sig.results).isSome = true := by
  obtain ⟨path, d, sig⟩ := c
  cases hk : settings.skips decl with
  | true => simp [converter?, hk]
  | false =>
    simp only [converter?, hk, Bool.false_eq_true, if_false, Option.bind_eq_some_iff,
      Option.map_eq_some_iff, Converter.mk.injEq, Option.isSome_iff_exists, true_and]
    constructor
    · rintro ⟨_, hs, pair, hp, rfl, rfl, rfl⟩
      exact ⟨rfl, rfl, hs, pair, hp⟩
    · rintro ⟨rfl, rfl, hs, pair, hp⟩
      exact ⟨sig, hs, pair, hp, rfl, rfl, rfl⟩

/-- The converters are such functions of the files that are looked at. -/
lemma mem_converters {c : Converter} :
    c ∈ p.converters settings ↔ ∃ file ∈ p.files,
      (file.source.generated = false ∨ settings.includeGenerated = true) ∧
      c.decl ∈ file.source.functions ∧ c.path = file.path ∧ settings.skips c.decl = false ∧
      (p.scope file).signature? c.decl = some c.sig ∧
      (classify settings p.table c.decl c.sig.params c.sig.results).isSome = true := by
  simp only [converters, checkedFiles, convertersOf, Settings.looksAt, List.mem_flatMap,
    List.mem_filter, List.mem_filterMap, converter?_eq_some, Bool.or_eq_true, Bool.not_eq_true',
    and_assoc]
  constructor
  · rintro ⟨file, hf, hg, _, hd, rfl, h⟩
    exact ⟨file, hf, hg, hd, h⟩
  · rintro ⟨file, hf, hg, hd, h⟩
    exact ⟨file, hf, hg, c.decl, hd, rfl, h⟩

/-- A converter is incomplete if it has a verdict that is not valid. -/
lemma incomplete?_eq_some {c : Converter} {i : Incomplete} :
    p.incomplete? settings c = some i ↔ i.path = c.path ∧ i.decl = c.decl ∧
      judge settings p.table c.decl c.sig = .ok i.verdict ∧ i.verdict.valid = false := by
  obtain ⟨path, d, v⟩ := i
  cases hj : judge settings p.table c.decl c.sig with
  | error r => simp [incomplete?, hj, Except.toOption]
  | ok v' =>
    simp only [incomplete?, hj, Except.toOption, Option.map_eq_some_iff, Option.filter_eq_some_iff,
      Option.some.injEq, Incomplete.mk.injEq, Except.ok.injEq, Bool.not_eq_true']
    constructor
    · rintro ⟨_, ⟨rfl, hv⟩, rfl, rfl, rfl⟩
      exact ⟨rfl, rfl, rfl, hv⟩
    · rintro ⟨rfl, rfl, rfl, hv⟩
      exact ⟨v', ⟨rfl, hv⟩, rfl, rfl, rfl⟩

/-- The incomplete converters are the converters with a verdict that is not valid. -/
lemma mem_incompletes {i : Incomplete} :
    i ∈ p.incompletes settings ↔ ∃ file ∈ p.files,
      (file.source.generated = false ∨ settings.includeGenerated = true) ∧
      i.decl ∈ file.source.functions ∧ i.path = file.path ∧ settings.skips i.decl = false ∧
      ∃ sig, (p.scope file).signature? i.decl = some sig ∧
        (classify settings p.table i.decl sig.params sig.results).isSome = true ∧
        judge settings p.table i.decl sig = .ok i.verdict ∧ i.verdict.valid = false := by
  simp only [incompletes, List.mem_filterMap, incomplete?_eq_some, mem_converters]
  constructor
  · rintro ⟨c, ⟨file, hf, hg, hm, hp, hk, hs, hc⟩, ep, ed, hj, hv⟩
    rw [ep, ed]
    exact ⟨file, hf, hg, hm, hp, hk, c.sig, hs, hc, hj, hv⟩
  · rintro ⟨file, hf, hg, hm, hp, hk, sig, hs, hc, hj, hv⟩
    exact ⟨⟨i.path, i.decl, sig⟩, ⟨file, hf, hg, hm, hp, hk, hs, hc⟩, rfl, rfl, hj, hv⟩

/-! ## The outcome of a run -/

/-- The outcome for some converters, in their order. -/
def tally (p : Program) (settings : Settings) (scanned : Nat) (cs : List Converter) : Outcome :=
  { findings := ((cs.filterMap (p.incomplete? settings)).filter (·.isReported)).map (·.finding)
    suppressed := (cs.filterMap (p.incomplete? settings)).filterMap (·.suppressed?)
    scanned
    converters := cs.length }

/-- Outcomes are merged by tallying the converters of both. -/
lemma merge_tally (m n : Nat) (cs ds : List Converter) :
    (p.tally settings m cs).merge (p.tally settings n ds)
      = p.tally settings (m + n) (cs ++ ds) := by
  simp [tally, Outcome.merge]

/-- A converter without a verdict is only counted. -/
lemma tally_of_error {c : Converter} {r : Refusal}
    (hj : judge settings p.table c.decl c.sig = .error r) :
    p.tally settings 0 [c] = { converters := 1 } := by
  simp [tally, incomplete?, hj, Except.toOption]

/-- The outcome for a converter with a verdict. -/
lemma tally_of_ok {c : Converter} {v : Verdict}
    (hj : judge settings p.table c.decl c.sig = .ok v) :
    p.tally settings 0 [c] = report c.path c.decl v := by
  cases hv : v.valid with
  | true => simp [tally, incomplete?, hj, Except.toOption, report, hv]
  | false =>
    cases hs : c.decl.suppression? <;>
      simp [tally, incomplete?, hj, Except.toOption, report, hv, hs, Incomplete.isReported,
        Incomplete.suppressed?, Incomplete.finding, FuncDecl.finding]

/-- A function counts if it is a converter. -/
lemma checkFunction_eq (file : ProgramFile) (decl : FuncDecl) :
    p.checkFunction settings file decl
      = p.tally settings 0 (p.converter? settings file decl).toList := by
  unfold checkFunction converter?
  split
  · rfl
  · cases (p.scope file).signature? decl with
    | none => rfl
    | some sig =>
      cases hc : classify settings p.table decl sig.params sig.results with
      | none => simp [hc, tally]
      | some pair =>
        cases hj : judge settings p.table decl sig with
        | error r => simpa [hc, hj] using (tally_of_error (c := ⟨file.path, decl, sig⟩) hj).symm
        | ok v => simpa [hc, hj] using (tally_of_ok (c := ⟨file.path, decl, sig⟩) hj).symm

/-- The functions of a file add its converters to an outcome. -/
lemma foldl_checkFunction (file : ProgramFile) (decls : List FuncDecl) (n : Nat)
    (cs : List Converter) :
    (decls.map (p.checkFunction settings file)).foldl Outcome.merge (p.tally settings n cs)
      = p.tally settings n (cs ++ decls.filterMap (p.converter? settings file)) := by
  induction decls generalizing cs with
  | nil => simp
  | cons decl decls ih =>
    rw [List.map_cons, List.foldl_cons, checkFunction_eq, merge_tally, Nat.add_zero, ih]
    cases h : p.converter? settings file decl <;> simp [h]

/-- A file counts with its converters if it is looked at. -/
lemma checkFile_eq (file : ProgramFile) :
    p.checkFile settings file = if settings.looksAt file then
      p.tally settings 1 (p.convertersOf settings file) else p.tally settings 0 [] := by
  have hg : settings.looksAt file = !(file.source.generated && !settings.includeGenerated) := by
    simp [Settings.looksAt]
  rw [hg, checkFile]
  cases file.source.generated && !settings.includeGenerated with
  | true => rfl
  | false => exact foldl_checkFunction file file.source.functions 1 []

/-- The files add what is looked at to an outcome. -/
lemma foldl_checkFile (files : List ProgramFile) (n : Nat) (cs : List Converter) :
    (files.map (p.checkFile settings)).foldl Outcome.merge (p.tally settings n cs)
      = p.tally settings (n + (files.filter settings.looksAt).length)
        (cs ++ (files.filter settings.looksAt).flatMap (p.convertersOf settings)) := by
  induction files generalizing n cs with
  | nil => simp
  | cons file files ih =>
    rw [List.map_cons, List.foldl_cons, checkFile_eq]
    cases h : settings.looksAt file with
    | true => simp [merge_tally, ih, h, Nat.add_assoc, Nat.add_comm 1]
    | false => simp [merge_tally, ih, h]

/-- The outcome for a program is that of its incomplete converters, put in order. -/
lemma check_eq : p.check settings =
    { findings := (((p.incompletes settings).filter (·.isReported)).map (·.finding)).mergeSort
        (byKey Finding.key)
      suppressed := ((p.incompletes settings).filterMap (·.suppressed?)).mergeSort
        (byKey (·.finding.key))
      scanned := (p.checkedFiles settings).length
      converters := (p.converters settings).length } := by
  change ((p.files.map (p.checkFile settings)).foldl Outcome.merge (p.tally settings 0 [])).sort = _
  rw [foldl_checkFile, Nat.zero_add, List.nil_append, Outcome.sort, Finding.le_eq]
  rfl

/-! ## One function and its doc comment -/

/-- A function of a program, with what stands before and after it. -/
structure Site (p : Program) where
  before : List ProgramFile
  file : ProgramFile
  after : List ProgramFile
  files_eq : p.files = before ++ file :: after
  earlier : List FuncDecl
  decl : FuncDecl
  later : List FuncDecl
  functions_eq : file.source.functions = earlier ++ decl :: later

namespace Site

variable (site : p.Site)

/-- The function with another doc comment. -/
def declWith (doc : List String) : FuncDecl := { site.decl with doc }

/-- The file with another doc comment on the function. -/
def fileWith (doc : List String) : ProgramFile :=
  { site.file with
    source := { site.file.source with
      functions := site.earlier ++ site.declWith doc :: site.later } }

/-- The program with another doc comment on the function. -/
def withDoc (doc : List String) : Program :=
  { p with files := site.before ++ site.fileWith doc :: site.after }

/-- Nothing changes with the doc comment that the function has. -/
lemma withDoc_self : site.withDoc site.decl.doc = p := by
  have hf : site.fileWith site.decl.doc = site.file := by
    simp only [fileWith, declWith, ← site.functions_eq]
  simp only [withDoc, hf, ← site.files_eq]

/-- Whether the function is a converter does not depend on its doc comment. -/
lemma converter?_declWith (doc : List String) :
    p.converter? settings site.file (site.declWith doc)
      = (p.converter? settings site.file site.decl).map
        fun c => { c with decl := site.declWith doc } := by
  change (if settings.skips site.decl then none
    else ((p.scope site.file).signature? site.decl).bind fun sig =>
      (classify settings p.table site.decl sig.params sig.results).map fun _ =>
        (⟨site.file.path, site.declWith doc, sig⟩ : Converter)) = _
  unfold converter?
  split
  · rfl
  · cases (p.scope site.file).signature? site.decl with
    | none => rfl
    | some sig =>
      cases hc : classify settings p.table site.decl sig.params sig.results <;> simp [hc]

/-- The place of the finding on the function in the order of findings. -/
def key : String ×ₗ Nat ×ₗ String :=
  toLex (site.file.path, toLex (site.decl.nameSpan.start.row + 1, site.decl.qualifiedName))

/-- The function as a converter, if it is one and its file is looked at. -/
def converter? (settings : Settings) : Option Converter :=
  if settings.looksAt site.file then p.converter? settings site.file site.decl else none

/-- As a converter, the function keeps its declaration and its file. -/
lemma of_converter? {c : Converter} (h : site.converter? settings = some c) :
    c.decl = site.decl ∧ c.path = site.file.path := by
  unfold converter? at h
  split at h
  · obtain ⟨hd, hp, -⟩ := converter?_eq_some.1 h
    exact ⟨hd, hp⟩
  · cases h

/-- The converters of the file, whatever the doc comment on the function is. -/
lemma convertersOf_fileWith (settings : Settings) (doc : List String) :
    (site.withDoc doc).convertersOf settings (site.fileWith doc)
      = site.earlier.filterMap (p.converter? settings site.file)
        ++ (((p.converter? settings site.file site.decl).map fun c =>
          { c with decl := site.declWith doc }).toList
        ++ site.later.filterMap (p.converter? settings site.file)) := by
  change (site.earlier ++ site.declWith doc :: site.later).filterMap
    (p.converter? settings site.file) = _
  rw [← converter?_declWith, List.filterMap_append, List.filterMap_cons]
  cases p.converter? settings site.file (site.declWith doc) <;> rfl

/-- The converters of the program, whatever the doc comment on the function is. -/
lemma converters_withDoc (settings : Settings) :
    ∃ cs ds, ∀ doc, (site.withDoc doc).converters settings
      = cs ++ (((site.converter? settings).map fun c =>
        { c with decl := site.declWith doc }).toList ++ ds) := by
  cases h : settings.looksAt site.file with
  | false =>
    refine ⟨(site.before.filter settings.looksAt).flatMap (p.convertersOf settings),
      (site.after.filter settings.looksAt).flatMap (p.convertersOf settings), fun doc => ?_⟩
    have hw : settings.looksAt (site.fileWith doc) = false := h
    simp only [converters, checkedFiles, withDoc, List.filter_append, List.filter_cons, hw,
      List.flatMap_append, converter?, h]
    rfl
  | true =>
    refine ⟨(site.before.filter settings.looksAt).flatMap (p.convertersOf settings)
        ++ site.earlier.filterMap (p.converter? settings site.file),
      site.later.filterMap (p.converter? settings site.file)
        ++ (site.after.filter settings.looksAt).flatMap (p.convertersOf settings), fun doc => ?_⟩
    have hw : settings.looksAt (site.fileWith doc) = true := h
    have hc := site.convertersOf_fileWith settings doc
    simp only [converters, checkedFiles, withDoc, List.filter_append, List.filter_cons, hw, if_true,
      List.flatMap_append, List.flatMap_cons, converter?, h] at hc ⊢
    rw [hc]
    simp only [List.append_assoc]
    rfl

/-- What is found of the function as a converter does not depend on its doc comment. -/
lemma incomplete?_declWith {c : Converter} (hc : c.decl = site.decl) (doc : List String) :
    p.incomplete? settings { c with decl := site.declWith doc }
      = (p.incomplete? settings c).map fun i => ⟨c.path, site.declWith doc, i.verdict⟩ := by
  obtain ⟨path, decl, sig⟩ := c
  subst hc
  change ((judge settings p.table site.decl sig).toOption.filter fun v => !v.valid).map _ = _
  rw [incomplete?, Option.map_map]
  rfl

/-- The function as an incomplete converter, if it is one and its file is looked at. -/
def incomplete? (settings : Settings) (doc : List String) : Option Incomplete :=
  ((site.converter? settings).bind (p.incomplete? settings)).map
    fun i => ⟨site.file.path, site.declWith doc, i.verdict⟩

/-- The incomplete converters of the program, whatever the doc comment on the function is. -/
lemma incompletes_withDoc (settings : Settings) :
    ∃ is js, ∀ doc, (site.withDoc doc).incompletes settings
      = is ++ ((site.incomplete? settings doc).toList ++ js) := by
  obtain ⟨cs, ds, h⟩ := site.converters_withDoc settings
  refine ⟨cs.filterMap (p.incomplete? settings), ds.filterMap (p.incomplete? settings),
    fun doc => ?_⟩
  change ((site.withDoc doc).converters settings).filterMap (p.incomplete? settings) = _
  rw [h, List.filterMap_append, List.filterMap_append]
  cases hc : site.converter? settings with
  | none => simp [incomplete?, hc]
  | some c =>
    obtain ⟨hd, hp⟩ := site.of_converter? hc
    rw [Option.map_some, Option.toList_some, incomplete?, hc, Option.bind_some, ← hp,
      ← site.incomplete?_declWith hd doc]
    cases hi : p.incomplete? settings { c with decl := site.declWith doc } <;> simp [hi]

/-- How many converters there are does not depend on the doc comment on the function. -/
lemma length_converters_withDoc (doc : List String) :
    ((site.withDoc doc).converters settings).length = (p.converters settings).length := by
  obtain ⟨cs, ds, h⟩ := site.converters_withDoc settings
  conv_rhs => rw [← site.withDoc_self]
  rw [h, h]
  cases site.converter? settings <;> simp

/-- How many files are looked at does not depend on the doc comment on the function. -/
lemma length_checkedFiles_withDoc (doc : List String) :
    ((site.withDoc doc).checkedFiles settings).length = (p.checkedFiles settings).length := by
  have hw : settings.looksAt (site.fileWith doc) = settings.looksAt site.file := rfl
  simp only [checkedFiles, withDoc, site.files_eq, List.filter_append, List.filter_cons, hw]
  cases settings.looksAt site.file <;> simp

/-- The finding on the function has the place that its doc comment does not bear on. -/
lemma key_of_incomplete? {doc : List String} {i : Incomplete}
    (h : site.incomplete? settings doc = some i) : i.finding.key = site.key := by
  obtain ⟨_, -, rfl⟩ := Option.map_eq_some_iff.1 h
  rfl

/-- The outcome for the program: what stands around the function does not depend on its doc
    comment. -/
lemma check_withDoc (settings : Settings) :
    ∃ l₁ l₂ s₁ s₂ n m, ∀ doc, (site.withDoc doc).check settings =
      { findings := l₁ ++
          (((site.incomplete? settings doc).toList.filter (·.isReported)).map (·.finding) ++ l₂)
        suppressed := s₁ ++
          ((site.incomplete? settings doc).toList.filterMap (·.suppressed?) ++ s₂)
        scanned := n
        converters := m } := by
  obtain ⟨is, js, h⟩ := site.incompletes_withDoc settings
  -- whatever the function contributes to either list has one key, so it is a block of the sort
  obtain ⟨l₁, l₂, hl⟩ := mergeSort_byKey_block Finding.key site.key
    ((is.filter (·.isReported)).map (·.finding)) ((js.filter (·.isReported)).map (·.finding))
  obtain ⟨s₁, s₂, hs⟩ := mergeSort_byKey_block (fun s : Suppressed => s.finding.key) site.key
    (is.filterMap (·.suppressed?)) (js.filterMap (·.suppressed?))
  refine ⟨l₁, l₂, s₁, s₂, (p.checkedFiles settings).length, (p.converters settings).length,
    fun doc => ?_⟩
  rw [check_eq, h, site.length_checkedFiles_withDoc, site.length_converters_withDoc,
    ← hl, ← hs]
  · simp
  · intro s hs
    obtain ⟨i, hi, hr⟩ := List.mem_filterMap.1 hs
    obtain ⟨reason, -, rfl⟩ := Option.map_eq_some_iff.1 hr
    exact site.key_of_incomplete? (Option.mem_toList.1 hi)
  · intro f hf
    obtain ⟨i, hi, rfl⟩ := List.mem_map.1 hf
    exact site.key_of_incomplete? (Option.mem_toList.1 (List.mem_of_mem_filter hi))

end Site

end Program

/-- An outcome after the finding on a function is silenced: the finding moves, if there was one, or
    is silenced for another reason, if it was silenced before. All else stands where it stood. -/
inductive Outcome.Silenced (path : String) (decl decl' : FuncDecl) : Outcome → Outcome → Prop where
  | untouched {o : Outcome} :
    Silenced path decl decl' o o
  | moved {l₁ l₂ s₁ s₂ n m verdict reason} :
    decl.suppression? = none →
    decl'.suppression? = some reason →
    Silenced path decl decl'
      ⟨l₁ ++ decl.finding path verdict :: l₂, s₁ ++ s₂, n, m⟩
      ⟨l₁ ++ l₂, s₁ ++ ⟨decl.finding path verdict, reason⟩ :: s₂, n, m⟩
  | renewed {l s₁ s₂ n m verdict reason reason'} :
    decl.suppression? = some reason →
    decl'.suppression? = some reason' →
    Silenced path decl decl'
      ⟨l, s₁ ++ ⟨decl.finding path verdict, reason⟩ :: s₂, n, m⟩
      ⟨l, s₁ ++ ⟨decl.finding path verdict, reason'⟩ :: s₂, n, m⟩

/-- A doc comment with a directive added to it. -/
def FuncDecl.docWith (decl : FuncDecl) (i : Nat) (line : String) : List String :=
  decl.doc.take i ++ line :: decl.doc.drop i

namespace Program

/-- A function with a directive in its doc comment silences findings. -/
lemma Site.suppression?_docWith {p : Program} (site : p.Site) (i : Nat) {line : String}
    (h : (Suppression.ofLine line).isSome = true) :
    ∃ reason, (site.declWith (site.decl.docWith i line)).suppression? = some reason := by
  rw [← Option.isSome_iff_exists]
  change ((site.decl.docWith i line).findSome? Suppression.ofLine).isSome = true
  rw [List.findSome?_isSome_iff]
  exact ⟨line, List.mem_append_right _ List.mem_cons_self, h⟩

/-- A directive on a function silences the finding on it and changes nothing else. -/
lemma Site.silenced {p : Program} (site : p.Site) (settings : Settings) (i : Nat) {line : String}
    (h : (Suppression.ofLine line).isSome = true) :
    Outcome.Silenced site.file.path site.decl (site.declWith (site.decl.docWith i line))
      (p.check settings) ((site.withDoc (site.decl.docWith i line)).check settings) := by
  obtain ⟨reason', hr⟩ := site.suppression?_docWith i h
  obtain ⟨l₁, l₂, s₁, s₂, n, m, hc⟩ := site.check_withDoc settings
  have hp := hc site.decl.doc
  rw [site.withDoc_self] at hp
  rw [hp, hc]
  unfold Site.incomplete?
  -- a function with nothing to report leaves both lists as they are
  cases (site.converter? settings).bind (p.incomplete? settings) with
  | none => exact .untouched
  | some found =>
    obtain ⟨e₁', e₂'⟩ := Incomplete.singleton_of_some
      (i := ⟨site.file.path, site.declWith (site.decl.docWith i line), found.verdict⟩) hr
    cases hd : site.decl.suppression? with
    | none =>
      obtain ⟨e₁, e₂⟩ := Incomplete.singleton_of_none
        (i := ⟨site.file.path, site.declWith site.decl.doc, found.verdict⟩) hd
      simp only [Option.map_some, Option.toList_some, e₁, e₂, e₁', e₂']
      exact .moved hd hr
    | some reason =>
      obtain ⟨e₁, e₂⟩ := Incomplete.singleton_of_some
        (i := ⟨site.file.path, site.declWith site.decl.doc, found.verdict⟩) hd
      simp only [Option.map_some, Option.toList_some, e₁, e₂, e₁', e₂']
      exact .renewed hd hr

/-- A verdict that is reported is not delegating and has something missing. -/
lemma missing_of_mem_incompletes {p : Program} {settings : Settings} {i : Incomplete}
    (h : i ∈ p.incompletes settings) :
    i.verdict.delegating = false ∧ i.verdict.missing ≠ [] := by
  obtain ⟨_, _, _, _, _, _, _, _, _, hj, hv⟩ := mem_incompletes.1 h
  exact missing_of_invalid hj hv

/-- A run reports exactly the incomplete converters of the files that it looks at. There is one
    finding for each, silenced exactly if its function carries a directive; the findings are in
    order, and each one names a missing field. A directive that is added to a function silences the
    finding on this function and changes nothing else. -/
theorem check_reports_incompletes (p : Program) (settings : Settings) :
    (∀ i, i ∈ p.incompletes settings ↔ ∃ file ∈ p.files,
      (file.source.generated = false ∨ settings.includeGenerated = true) ∧
      i.decl ∈ file.source.functions ∧ i.path = file.path ∧ settings.skips i.decl = false ∧
      ∃ sig, (p.scope file).signature? i.decl = some sig ∧
        (classify settings p.table i.decl sig.params sig.results).isSome = true ∧
        judge settings p.table i.decl sig = .ok i.verdict ∧ i.verdict.valid = false) ∧
    ((p.check settings).findings ++ (p.check settings).suppressed.map (·.finding)).Perm
      ((p.incompletes settings).map (·.finding)) ∧
    (p.check settings).findings.Perm
      (((p.incompletes settings).filter (·.isReported)).map (·.finding)) ∧
    (p.check settings).suppressed.Perm ((p.incompletes settings).filterMap (·.suppressed?)) ∧
    (p.check settings).findings.Pairwise (fun a b => a.key ≤ b.key) ∧
    (p.check settings).suppressed.Pairwise (fun a b => a.finding.key ≤ b.finding.key) ∧
    (∀ f ∈ (p.check settings).findings ++ (p.check settings).suppressed.map (·.finding),
      f.verdict.delegating = false ∧ f.verdict.missing ≠ []) ∧
    (p.check settings).converters = (p.converters settings).length ∧
    (p.check settings).scanned = (p.checkedFiles settings).length ∧
    ∀ (site : p.Site) (i : Nat) (line : String), (Suppression.ofLine line).isSome = true →
      Outcome.Silenced site.file.path site.decl (site.declWith (site.decl.docWith i line))
        (p.check settings) ((site.withDoc (site.decl.docWith i line)).check settings) := by
  have hf : (p.check settings).findings.Perm
      (((p.incompletes settings).filter (·.isReported)).map (·.finding)) := by
    rw [check_eq]
    exact List.mergeSort_perm _ _
  have hs : (p.check settings).suppressed.Perm
      ((p.incompletes settings).filterMap (·.suppressed?)) := by
    rw [check_eq]
    exact List.mergeSort_perm _ _
  have hall := (hf.append (hs.map (·.finding))).trans
    (Incomplete.findings_perm (p.incompletes settings))
  refine ⟨fun i => mem_incompletes, hall, hf, hs, ?_, ?_, ?_, ?_, ?_, ?_⟩
  · rw [check_eq]
    exact mergeSort_byKey_ascends _ _
  · rw [check_eq]
    exact mergeSort_byKey_ascends _ _
  · intro f hf
    obtain ⟨i, hi, rfl⟩ := List.mem_map.1 (hall.mem_iff.1 hf)
    exact missing_of_mem_incompletes hi
  · rw [check_eq]
  · rw [check_eq]
  · intro site i line h
    exact site.silenced settings i h

end Program

namespace Sample

/-- A converter that sets nothing. -/
def incomplete : FuncDecl := toDTO [.ret [.composite (some (.named none "UserDTO")) []]]

/-- A file with two incomplete converters; the finding on the first one is silenced. -/
def incompleteFile : ProgramFile :=
  { path := "user.go", packageDir := ""
    source :=
      { package := "user"
        functions := [{ incomplete with doc := ["nolint:all"] }, incomplete] } }

/-- A program of this file. -/
def program : Program := { files := [incompleteFile], table }

/-- The second converter of the program. -/
def site : program.Site where
  before := []
  file := incompleteFile
  after := []
  files_eq := rfl
  earlier := [{ incomplete with doc := ["nolint:all"] }]
  decl := incomplete
  later := []
  functions_eq := rfl

end Sample

/-- The sample has two incomplete converters, and a directive on the second one silences it too. -/
theorem check_reports_sample :
    (Suppression.ofLine "lostfield:ignore - legacy").isSome = true ∧
      (Sample.program.incompletes {}).map (·.isReported) = [false, true] ∧
      Outcome.Silenced "user.go" Sample.incomplete
        (Sample.site.declWith ["lostfield:ignore - legacy"]) (Sample.program.check {})
        ((Sample.site.withDoc ["lostfield:ignore - legacy"]).check {}) := by
  obtain ⟨_, _, _, _, _, _, _, _, _, h⟩ := Program.check_reports_incompletes Sample.program {}
  exact ⟨by decide, by decide +kernel,
    h Sample.site 0 "lostfield:ignore - legacy" (by decide)⟩

end FieldAudit
