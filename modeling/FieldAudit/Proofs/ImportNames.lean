import Mathlib
import FieldAudit.Proofs.References

/-!
# The names of imports

A file keeps the first import of each path. So a name that a file gives to a package leads to the path of
its import if no import before it has the same path. A second name for a path leads nowhere: what it
qualifies is looked up in a package of that name.
-/

namespace FieldAudit

namespace Source

/-- What stands in an item that is no comment. -/
def Item.content? {δ : Type} : Item δ → Option δ
  | .comment _ => none
  | .node _ _ content => some content

/-- The imports of a declaration. -/
def Decl.importSpecs : Decl → List Import
  | .imports specs => specs
  | _ => []

/-- The imports that are written in a file, in their order. -/
def importSpecs (items : List (Item Decl)) : List Import :=
  (items.filterMap Item.content?).flatMap Decl.importSpecs

/-! ## The imports that are kept -/

section

variable {specs before after : List Import} {spec i : Import}

/-- One more import is kept exactly if it has a path and that path is new. -/
lemma distinctImports_concat (specs : List Import) (i : Import) :
    distinctImports (specs ++ [i]) =
      if i.path.isEmpty || (distinctImports specs).any (·.path == i.path) then distinctImports specs
      else distinctImports specs ++ [i] := by
  rw [distinctImports, List.foldl_concat]
  rfl

/-- The imports that are kept of a longer list are those kept before, and the last one if its path is
    new. -/
lemma mem_distinctImports_concat :
    i ∈ distinctImports (specs ++ [spec]) ↔ i ∈ distinctImports specs ∨
      i = spec ∧ spec.path ≠ "" ∧ ∀ j ∈ distinctImports specs, j.path ≠ spec.path := by
  rw [distinctImports_concat]
  split
  · rename_i skipped
    rw [Bool.or_eq_true, String.isEmpty_iff, List.any_eq_true] at skipped
    refine ⟨.inl, fun h => ?_⟩
    rcases h with h | ⟨_, ne, new⟩
    · exact h
    · rcases skipped with e | ⟨j, hj, e⟩
      · exact absurd e ne
      · exact absurd (beq_iff_eq.1 e) (new j hj)
  · rename_i kept
    rw [Bool.or_eq_true, String.isEmpty_iff, List.any_eq_true, not_or] at kept
    have new : ∀ j ∈ distinctImports specs, j.path ≠ spec.path :=
      fun j hj e => kept.2 ⟨j, hj, beq_iff_eq.2 e⟩
    rw [List.mem_append, List.mem_singleton]
    exact or_congr_right ⟨fun e => ⟨e, kept.1, new⟩, fun h => h.1⟩

/-- A path is kept in some import if it is written in one. -/
lemma exists_distinctImports {path : String} (ne : path ≠ "") (h : ∃ j ∈ specs, j.path = path) :
    ∃ j ∈ distinctImports specs, j.path = path := by
  induction specs using List.reverseRecOn with
  | nil => exact h
  | append_singleton specs i ih =>
    by_cases old : ∃ j ∈ distinctImports specs, j.path = path
    · obtain ⟨j, hj, e⟩ := old
      exact ⟨j, mem_distinctImports_concat.2 (.inl hj), e⟩
    · obtain ⟨j, hj, rfl⟩ := h
      rcases List.mem_append.1 hj with hj | hj
      · exact absurd (ih ⟨j, hj, rfl⟩) old
      · obtain rfl := List.mem_singleton.1 hj
        refine ⟨j, mem_distinctImports_concat.2 (.inr ⟨rfl, ne, ?_⟩), rfl⟩
        exact fun k hk e => old ⟨k, hk, e⟩

/-- The import is the first one of its path. -/
def FirstOfPath (specs : List Import) (i : Import) : Prop :=
  ∃ before after, specs = before ++ i :: after ∧ ∀ j ∈ before, j.path ≠ i.path

/-- The first import of a path is an import of the file. -/
lemma FirstOfPath.mem (h : FirstOfPath specs i) : i ∈ specs := by
  obtain ⟨before, after, rfl, _⟩ := h
  exact List.mem_append_right _ List.mem_cons_self

/-- The last import of a list is the first of its path if no other one has that path. -/
lemma firstOfPath_concat :
    FirstOfPath (specs ++ [spec]) i ↔ FirstOfPath specs i ∨ i = spec ∧ ∀ j ∈ specs, j.path ≠ spec.path := by
  constructor
  · rintro ⟨before, after, e, new⟩
    cases after using List.reverseRecOn with
    | nil =>
      obtain ⟨rfl, last⟩ := List.append_inj' e rfl
      obtain rfl := List.singleton_inj.1 last
      exact .inr ⟨rfl, new⟩
    | append_singleton after last =>
      rw [← List.cons_append, ← List.append_assoc] at e
      exact .inl ⟨before, after, (List.append_inj' e rfl).1, new⟩
  · rintro (⟨before, after, rfl, new⟩ | ⟨rfl, new⟩)
    · exact ⟨before, after ++ [spec], by rw [List.append_assoc, List.cons_append], new⟩
    · exact ⟨specs, [], rfl, new⟩

/-- The kept imports are those with a path that are the first ones of it. -/
lemma mem_distinctImports : i ∈ distinctImports specs ↔ FirstOfPath specs i ∧ i.path ≠ "" := by
  induction specs using List.reverseRecOn generalizing i with
  | nil =>
    constructor
    · intro h
      cases h
    · rintro ⟨⟨before, after, e, _⟩, _⟩
      exact absurd e.symm (List.append_ne_nil_of_right_ne_nil _ (List.cons_ne_nil _ _))
  | append_singleton specs spec ih =>
    rw [mem_distinctImports_concat, firstOfPath_concat, ih]
    constructor
    · rintro (h | ⟨rfl, ne, new⟩)
      · exact ⟨.inl h.1, h.2⟩
      · refine ⟨.inr ⟨rfl, fun j hj e => ?_⟩, ne⟩
        obtain ⟨k, hk, e⟩ := exists_distinctImports ne ⟨j, hj, e⟩
        exact new k hk e
    · rintro ⟨h | ⟨rfl, new⟩, ne⟩
      · exact .inl ⟨h, ne⟩
      · exact .inr ⟨rfl, ne, fun j hj => new j (ih.1 hj).1.mem⟩

/-- Where no import is written twice, one is not the first of its path if another one stands before it. -/
lemma not_firstOfPath_of_earlier (nodup : (before ++ spec :: after).Nodup)
    (h : ∃ earlier ∈ before, earlier.path = spec.path) : ¬ FirstOfPath (before ++ spec :: after) spec := by
  rintro ⟨before', after', e, new⟩
  have apart := List.nodup_middle.1 nodup
  rw [List.nodup_cons, List.mem_append, not_or] at apart
  obtain ⟨rfl, _⟩ := (List.append_cons_inj_of_notMem apart.1.1 apart.1.2).1 e
  obtain ⟨earlier, he, same⟩ := h
  exact new earlier he same

end

/-! ## The imports of a file -/

/-- Pairing declarations with their comments neither drops nor reorders them. -/
lemma map_fst_documentFrom {δ : Type} (doc : List Comment) (items : List (Item δ)) :
    (documentFrom doc items).map Prod.fst = items.filterMap Item.content? := by
  induction items generalizing doc with
  | nil => rfl
  | cons item items ih =>
    cases item with
    | comment c => exact ih (gather doc c)
    | node start stop content => exact congrArg (content :: ·) (ih [])

/-- The imports of a file are the first ones of each path. -/
lemma imports_of_collect {generated : Bool} {items : List (Item Decl)} {file : SourceFile}
    (h : collect generated items = .ok file) : file.imports = distinctImports (importSpecs items) := by
  have specs : importSpecs items = (document items).flatMap fun d => d.1.importSpecs := by
    rw [importSpecs, ← map_fst_documentFrom [], List.flatMap_map]
    rfl
  unfold collect at h
  simp only at h
  split at h
  · cases h
  · cases h
    rw [specs]
    apply congrArg distinctImports
    apply List.flatMap_congr
    rintro ⟨d, doc⟩ _
    cases d with
    | package | imports | types | function | other => rfl

end Source

/-! ## Qualified names -/

namespace Scope

variable {s : Scope} {package name : String}

/-- A name that no import has stands for no path. -/
lemma importPath?_eq_none (h : ∀ i ∈ s.imports, i.localName ≠ package) :
    s.importPath? package = none := by
  have unfound : s.imports.reverse.find? (·.localName = package) = none := by
    rw [List.find?_eq_none]
    intro i hi found
    exact h i (List.mem_reverse.1 hi) (of_decide_eq_true found)
  rw [importPath?, unfound]
  rfl

/-- Without an import the name of the package stands for itself. -/
lemma resolve_unimported (h : s.importPath? package = none)
    (hu : ¬ (package = "unsafe" ∧ name = "Pointer")) :
    s.resolve (.named (some package) name) = .named ⟨package, name⟩ := by
  rw [resolve, resolveName, if_neg hu, h]
  rfl

end Scope

open Source

/-- In a file whose imports have distinct names, the name of an import leads to its path if no import
    before it has the same path. If one has, the import is lost: its name leads to no path, and a type
    that it qualifies is taken for one of a package of that name. -/
theorem first_name_of_path_resolves {bytes : List UInt8} {items : List (Item Decl)}
    (parsed : (tokens bytes).bind parseDecls = some items)
    (distinct : ((importSpecs items).map Import.localName).Nodup) {before after : List Import}
    {spec : Import} (place : importSpecs items = before ++ spec :: after) (ne : spec.path ≠ "")
    {file : ProgramFile} (read : Source.read bytes = .ok file.source) (p : Program) :
    ((∀ earlier ∈ before, earlier.path ≠ spec.path) →
      (p.scope file).importPath? spec.localName = some spec.path ∧
      ∀ name, ¬ (spec.localName = "unsafe" ∧ name = "Pointer") →
        (p.scope file).resolve (.named (some spec.localName) name) =
          .named ⟨p.resolver.packageOf spec.path, name⟩) ∧
    ((∃ earlier ∈ before, earlier.path = spec.path) →
      (p.scope file).importPath? spec.localName = none ∧
      ∀ name, ¬ (spec.localName = "unsafe" ∧ name = "Pointer") →
        (p.scope file).resolve (.named (some spec.localName) name) =
          .named ⟨spec.localName, name⟩) := by
  have kept : file.source.imports = distinctImports (importSpecs items) := by
    rw [Source.read, parsed] at read
    exact imports_of_collect read
  have written : spec ∈ importSpecs items := by
    rw [place]
    exact List.mem_append_right _ List.mem_cons_self
  -- of the kept imports only this one can have its name
  have only : ∀ i ∈ (p.scope file).imports, i.localName = spec.localName → i = spec := by
    intro i hi
    have hi : i ∈ file.source.imports := hi
    rw [kept, mem_distinctImports] at hi
    exact List.inj_on_of_nodup_map distinct hi.1.mem written
  constructor
  · intro new
    have found : spec ∈ file.source.imports := by
      rw [kept, mem_distinctImports]
      exact ⟨⟨before, after, place, new⟩, ne⟩
    have imports : (p.scope file).Imports spec.path spec.localName :=
      ⟨⟨spec, found, rfl, rfl⟩, fun i hi e => congrArg Import.path (only i hi e)⟩
    exact ⟨imports.importPath?_eq, fun name hu => Scope.resolve_qualified imports hu⟩
  · intro earlier
    have lost : spec ∉ file.source.imports := by
      rw [kept, mem_distinctImports, place]
      intro h
      refine not_firstOfPath_of_earlier ?_ earlier h.1
      rw [← place]
      exact distinct.of_map
    have nowhere : (p.scope file).importPath? spec.localName = none := by
      apply Scope.importPath?_eq_none
      intro i hi e
      rw [only i hi e] at hi
      exact lost hi
    exact ⟨nowhere, fun name hu => Scope.resolve_unimported nowhere hu⟩

namespace Sample

/-- A file that imports one package under two names, and then another one. -/
def twiceNamed : List UInt8 :=
  ("package app\n\nimport a \"example.com/app/dto\"\nimport b \"example.com/app/dto\"\n" ++
    "import m \"example.com/app/model\"\n").toList.map fun c => UInt8.ofNat c.toNat

/-- The import of a package below the module. -/
def below (dir name : String) : Import := ⟨"example.com/app/" ++ dir, some name⟩

/-- A program with a directory for one of the packages. -/
def withDto : Program := { resolver }

/-- The path of the sample package leads to its directory. -/
lemma packageOf_dto : withDto.resolver.packageOf "example.com/app/dto" = "dto" := by
  decide +kernel

/-- The sample text can be parsed and has three imports. -/
lemma exists_parsed : ∃ items, (tokens twiceNamed).bind parseDecls = some items ∧
    importSpecs items = [below "dto" "a", below "dto" "b", below "model" "m"] := by
  have specs : ((tokens twiceNamed).bind parseDecls).map importSpecs =
      some [below "dto" "a", below "dto" "b", below "model" "m"] := by
    decide +kernel
  exact Option.map_eq_some_iff.1 specs

/-- The sample file can be read and keeps the first import of each path. -/
lemma exists_read : ∃ file : ProgramFile, Source.read twiceNamed = .ok file.source ∧
    file.source.imports = [below "dto" "a", below "model" "m"] := by
  have kept : (Source.read twiceNamed).toOption.map (·.imports) =
      some [below "dto" "a", below "model" "m"] := by
    decide +kernel
  obtain ⟨source, h, imports⟩ := Option.map_eq_some_iff.1 kept
  exact ⟨⟨"convert.go", "", source⟩, eq_ok_of_toOption h, imports⟩

end Sample

/-- In the sample file the first name of a package leads to it, and so does the name of another package
    that comes after the second one. -/
theorem first_name_of_path_resolves_sample :
    ∃ file : ProgramFile, Source.read Sample.twiceNamed = .ok file.source ∧
      (Sample.withDto.scope file).resolve (.named (some "a") "User") = .named ⟨"dto", "User"⟩ ∧
      (Sample.withDto.scope file).importPath? "m" = some "example.com/app/model" ∧
      (Sample.withDto.scope file).importPath? "b" = none := by
  obtain ⟨items, parsed, specs⟩ := Sample.exists_parsed
  obtain ⟨file, read, _⟩ := Sample.exists_read
  have distinct : ((importSpecs items).map Import.localName).Nodup := by
    rw [specs]
    decide
  have placeA : importSpecs items =
      [] ++ Sample.below "dto" "a" :: [Sample.below "dto" "b", Sample.below "model" "m"] := specs
  have placeB : importSpecs items =
      [Sample.below "dto" "a"] ++ Sample.below "dto" "b" :: [Sample.below "model" "m"] := specs
  have placeM : importSpecs items =
      [Sample.below "dto" "a", Sample.below "dto" "b"] ++ Sample.below "model" "m" :: [] := specs
  refine ⟨file, read, ?_, ?_, ?_⟩
  · have first := first_name_of_path_resolves parsed distinct placeA (by decide) read Sample.withDto
    rw [← Sample.packageOf_dto]
    exact (first.1 (by decide)).2 "User" (by decide)
  · have other := first_name_of_path_resolves parsed distinct placeM (by decide) read Sample.withDto
    exact (other.1 (by decide)).1
  · have second := first_name_of_path_resolves parsed distinct placeB (by decide) read Sample.withDto
    exact (second.2 (by decide)).1

/-- The second name of a package is lost, though no two imports of the file have one name: a type that it
    qualifies is not looked up in the directory of the package. -/
theorem second_name_of_path_lost :
    ∃ (items : List (Item Decl)) (file : ProgramFile),
      (tokens Sample.twiceNamed).bind parseDecls = some items ∧
      Source.read Sample.twiceNamed = .ok file.source ∧
      ((importSpecs items).map Import.localName).Nodup ∧
      ⟨"example.com/app/dto", some "b"⟩ ∈ importSpecs items ∧
      Sample.withDto.resolver.packageOf "example.com/app/dto" = "dto" ∧
      (Sample.withDto.scope file).importPath? "b" = none ∧
      (Sample.withDto.scope file).resolve (.named (some "b") "UserDTO") = .named ⟨"b", "UserDTO"⟩ := by
  obtain ⟨items, parsed, specs⟩ := Sample.exists_parsed
  obtain ⟨file, read, imports⟩ := Sample.exists_read
  have nowhere : (Sample.withDto.scope file).importPath? "b" = none := by
    apply Scope.importPath?_eq_none
    show ∀ i ∈ file.source.imports, i.localName ≠ "b"
    rw [imports]
    decide
  refine ⟨items, file, parsed, read, ?_, ?_, Sample.packageOf_dto, nowhere, ?_⟩
  · rw [specs]
    decide
  · rw [specs]
    decide
  · exact Scope.resolve_unimported nowhere (by decide)

end FieldAudit
