import Mathlib
import FieldAudit.Proofs.ImportPaths
import FieldAudit.Proofs.Loading

/-!
# References to types

In its own package a type is referred to by its name, and in another one by a qualified name, which
goes through the imports of the file, the path of the module and the package directories. Where the
package is imported by its path in the module, both ways lead to the directory of the package and the
name, and that is the key under which the table holds a declaration of the type.
-/

namespace FieldAudit

open Files

/-- If some member of a list passes a test, the last one that does is found from the end. -/
lemma exists_find?_reverse {α : Type} {test : α → Bool} {l : List α} (h : ∃ x ∈ l, test x = true) :
    ∃ x ∈ l, test x = true ∧ l.reverse.find? test = some x := by
  obtain ⟨x, hx, ht⟩ := h
  have hs : (l.reverse.find? test).isSome := by
    rw [List.find?_isSome]
    exact ⟨x, List.mem_reverse.2 hx, ht⟩
  obtain ⟨last, hl⟩ := Option.isSome_iff_exists.1 hs
  exact ⟨last, List.mem_reverse.1 (List.mem_of_find?_eq_some hl), List.find?_some hl, hl⟩

/-- If one of the inserted types has a key, one of these is found under it. -/
lemma TypeTable.exists_get?_foldl_insert {types : List NamedType} {key : TypeKey}
    (h : ∃ named ∈ types, named.key = key) (t : TypeTable) :
    ∃ named ∈ types, named.key = key ∧ (types.foldl TypeTable.insert t).get? key = some named := by
  have hd : ∃ named ∈ types, decide (named.key = key) = true := by simpa using h
  obtain ⟨last, hm, hk, hl⟩ := exists_find?_reverse hd
  refine ⟨last, hm, of_decide_eq_true hk, ?_⟩
  rw [TypeTable.get?_foldl_insert, hl, Option.some_or]

namespace Scope

variable {s outer inner : Scope} {path package name : String}

/-- The file imports a path under a local name that it uses for no other path. -/
structure Imports (s : Scope) (path package : String) : Prop where
  found : ∃ i ∈ s.imports, i.localName = package ∧ i.path = path
  only : ∀ i ∈ s.imports, i.localName = package → i.path = path

/-- A name that is used for one path alone stands for it. -/
lemma Imports.importPath?_eq (h : s.Imports path package) : s.importPath? package = some path := by
  obtain ⟨i, hi, hn, _⟩ := h.found
  have hd : ∃ i ∈ s.imports, decide (i.localName = package) = true :=
    ⟨i, hi, decide_eq_true hn⟩
  obtain ⟨last, hm, hn, hl⟩ := exists_find?_reverse hd
  rw [importPath?, hl, Option.map_some, h.only last hm (of_decide_eq_true hn)]

/-- The only import of a file is used for its path alone. -/
lemma imports_singleton {i : Import} (h : s.imports = [i]) : s.Imports i.path i.localName := by
  constructor
  · exact ⟨i, by rw [h]; exact List.mem_cons_self, rfl, rfl⟩
  · intro j hj _
    rw [h, List.mem_singleton] at hj
    rw [hj]

/-- A qualified name is that of a type in the package that the import leads to. -/
lemma resolve_qualified (h : s.Imports path package)
    (hu : ¬ (package = "unsafe" ∧ name = "Pointer")) :
    s.resolve (.named (some package) name) = .named ⟨s.resolver.packageOf path, name⟩ := by
  rw [resolve, resolveName, if_neg hu, h.importPath?_eq]
  rfl

/-- A bare name that is not predeclared is that of a type in the own package. -/
lemma resolve_unqualified (hn : name ∉ predeclaredTypes) :
    s.resolve (.named none name) = .named ⟨s.packageDir, name⟩ := by
  have hc : ¬ predeclaredTypes.contains name = true := by simpa using hn
  rw [resolve, resolveName, if_neg hc]

/-- Declaring types inserts their definitions one after the other. -/
lemma declareAll_eq (s : Scope) (decls : List TypeDecl) (table : TypeTable) :
    s.declareAll decls table = (decls.map s.declare).foldl TypeTable.insert table :=
  List.foldl_map.symm

/-- The name `package.name` in one file and the bare name in another one mean the type of this name in
    the directory of the second file, and there the types that are declared under the name are entered. -/
structure Agree (outer inner : Scope) (package name : String) : Prop where
  qualified : outer.resolve (.named (some package) name) = .named ⟨inner.packageDir, name⟩
  unqualified : inner.resolve (.named none name) = .named ⟨inner.packageDir, name⟩
  declared : ∀ (decls : List TypeDecl) (table : TypeTable), (∃ decl ∈ decls, decl.name = name) →
    ∃ decl ∈ decls, decl.name = name ∧
      (inner.declareAll decls table).get? ⟨inner.packageDir, name⟩ = some (inner.declare decl)

/-- If the import leads to the directory of the package, both ways to refer to the type agree. -/
lemma agree_of_packageOf (hp : outer.resolver.packageOf path = inner.packageDir)
    (hi : outer.Imports path package) (hn : name ∉ predeclaredTypes)
    (hu : ¬ (package = "unsafe" ∧ name = "Pointer")) : outer.Agree inner package name where
  qualified := by rw [resolve_qualified hi hu, hp]
  unqualified := resolve_unqualified hn
  declared := by
    rintro decls table ⟨decl, hd, he⟩
    have hk : ∃ named ∈ decls.map inner.declare, named.key = ⟨inner.packageDir, name⟩ := by
      refine ⟨inner.declare decl, List.mem_map_of_mem hd, ?_⟩
      rw [declare, he]
    obtain ⟨named, hm, hk, hg⟩ := TypeTable.exists_get?_foldl_insert hk table
    obtain ⟨last, hl, rfl⟩ := List.mem_map.1 hm
    refine ⟨last, hl, congrArg TypeKey.name hk, ?_⟩
    rw [declareAll_eq, hg]

end Scope

namespace Program

variable {p : Program}

/-- A file of the program in this directory declares the named type under this name. -/
def Declares (p : Program) (dir name : String) (named : NamedType) : Prop :=
  ∃ file ∈ p.files, ∃ decl ∈ file.source.types,
    file.packageDir = dir ∧ decl.name = name ∧ named = (p.scope file).declare decl

/-- The table of a program has the types of all files inserted, file after file. -/
lemma declare_eq (resolver : Resolver) (files : List ProgramFile) :
    declare resolver files = (files.flatMap fun file => file.source.types.map
      (Scope.declare ⟨resolver, file.packageDir, file.source.imports⟩)).foldl TypeTable.insert {} := by
  rw [List.foldl_flatMap]
  simp only [declare, Scope.declareAll_eq]

/-- The inserted types with a key are those that a file in its directory declares under its name. -/
lemma mem_declared {named : NamedType} {dir name : String} :
    (named ∈ p.files.flatMap (fun file => file.source.types.map (p.scope file).declare) ∧
      named.key = ⟨dir, name⟩) ↔ p.Declares dir name named := by
  simp only [List.mem_flatMap, List.mem_map, Declares]
  constructor
  · rintro ⟨⟨file, hf, decl, hd, rfl⟩, hk⟩
    exact ⟨file, hf, decl, hd, congrArg TypeKey.package hk, congrArg TypeKey.name hk, rfl⟩
  · rintro ⟨file, hf, decl, hd, rfl, rfl, rfl⟩
    exact ⟨⟨file, hf, decl, hd, rfl⟩, rfl⟩

/-- A type that is declared in a package is found in the table, by a declaration in that package. -/
lemma exists_get?_of_declares (ht : p.table = declare p.resolver p.files) {named : NamedType}
    {dir name : String} (hd : p.Declares dir name named) :
    ∃ found, p.table.get? ⟨dir, name⟩ = some found ∧ p.Declares dir name found := by
  obtain ⟨hm, hk⟩ := mem_declared.2 hd
  obtain ⟨found, hm, hk, hg⟩ := TypeTable.exists_get?_foldl_insert ⟨named, hm, hk⟩ {}
  refine ⟨found, ?_, mem_declared.1 ⟨hm, hk⟩⟩
  rw [ht, declare_eq]
  exact hg

/-- The path of a module is what a module file declares, joined with the way from there to the root. -/
lemma modulePath?_eq_some {top : Entry} {base : Route} {module : String}
    (h : modulePath? top base = some module) :
    ∃ n text m, top.readText (base.moves.take n ++ [.down "go.mod"]) = .ok text ∧
      declaredModule? text = some m ∧ module = joinPath m (Route.toText (base.moves.drop n)) := by
  obtain ⟨n, _, h⟩ := List.exists_of_findSome?_eq_some h
  obtain ⟨text, ht, h⟩ := Option.bind_eq_some_iff.1 h
  obtain ⟨m, hm, rfl⟩ := Option.map_eq_some_iff.1 h
  refine ⟨n, text, m, eq_ok_of_toOption ht, hm, ?_⟩
  simp only [joinPath, String.isEmpty_iff]

end Program

/-- A package that is imported by its path in the module is known by one key from inside and from
    outside. This holds for any package directories, and so the paths of different ones are kept
    apart. In a loaded program the path of the module is the declared one, joined with the way to the
    root, and the table holds a declaration of the type under the key. -/
theorem references_agree :
    (∀ (m offset module : String) (dirs : List String) (r : Resolver),
      module = joinPath m offset → r = .ofDirs (some module) dirs →
        (∀ (outer inner : Scope) (package name : String), outer.resolver = r →
          inner.packageDir ∈ dirs → outer.Imports (joinPath module inner.packageDir) package →
          name ∉ predeclaredTypes → ¬ (package = "unsafe" ∧ name = "Pointer") →
          outer.Agree inner package name) ∧
        ∀ d ∈ dirs, ∀ d' ∈ dirs,
          r.packageOf (joinPath module d) = r.packageOf (joinPath module d') → d = d') ∧
    ∀ (read : FileReader) (top : Entry) (base : Route) (paths : List Route) (p : Program)
      (module : String), p = .load read top base paths →
        Program.modulePath? top base = some module →
        (∃ n text m, top.readText (base.moves.take n ++ [.down "go.mod"]) = .ok text ∧
          Program.declaredModule? text = some m ∧
          module = joinPath m (Route.toText (base.moves.drop n))) ∧
        ∀ (outer inner : ProgramFile) (package name : String), inner ∈ p.files →
          (p.scope outer).Imports (joinPath module inner.packageDir) package →
          name ∉ predeclaredTypes → ¬ (package = "unsafe" ∧ name = "Pointer") →
          (p.scope outer).Agree (p.scope inner) package name ∧
            ∀ named, p.Declares inner.packageDir name named →
              ∃ found, p.table.get? ⟨inner.packageDir, name⟩ = some found ∧
                p.Declares inner.packageDir name found := by
  constructor
  · rintro m offset module dirs r - rfl
    have hp : ∀ d ∈ dirs, (Resolver.ofDirs (some module) dirs).packageOf (joinPath module d) = d :=
      fun d hd => Resolver.packageOf_joinPath rfl (OrderedSet.mem_ofList.2 hd)
    constructor
    · intro outer inner package name hr hd hi hn hu
      refine Scope.agree_of_packageOf ?_ hi hn hu
      rw [hr]
      exact hp _ hd
    · intro d hd d' hd' h
      rwa [hp d hd, hp d' hd'] at h
  · rintro read top base paths p module rfl hm
    refine ⟨Program.modulePath?_eq_some hm, ?_⟩
    intro outer inner package name hf hi hn hu
    constructor
    · refine Scope.agree_of_packageOf (Resolver.packageOf_joinPath hm ?_) hi hn hu
      exact OrderedSet.mem_ofList.2 (List.mem_map_of_mem hf)
    · intro named hd
      exact Program.exists_get?_of_declares rfl hd

namespace Sample

/-- A file that imports two packages whose directories end alike. -/
def importing : Scope :=
  { resolver, packageDir := ""
    imports := [⟨"example.com/app/models/dto", some "models"⟩, ⟨"example.com/app/dto", some "dto"⟩] }

/-- The source files in the order of their paths. -/
def paths : List Route := [[.down "dto", .down "dto.go"], [.down "main.go"]]

/-- The directory of a file, the types that it declares and its imports. -/
def outline (file : ProgramFile) : String × List String × List Import :=
  (file.packageDir, file.source.types.map (·.name), file.source.imports)

/-- Both files of the program can be read. The one at the root imports the other one. -/
lemma files_load : ∃ inner outer : ProgramFile,
    (load paths).files = [inner, outer] ∧ inner.packageDir = "dto" ∧
      (∃ decl ∈ inner.source.types, decl.name = "User") ∧
      outer.source.imports = [⟨"example.com/app/svc/dto", some "dto"⟩] := by
  have hs : paths.mergeSort (fun a b => a.moves.le b.moves) = paths :=
    List.mergeSort_of_pairwise (by decide +kernel)
  have ho : (load paths).files.map outline =
      [("dto", ["User"], []), ("", [], [⟨"example.com/app/svc/dto", some "dto"⟩])] := by
    rw [load, Program.load, hs]
    decide +kernel
  obtain ⟨inner, _, hf, hi, ho⟩ := List.map_eq_cons_iff.1 ho
  obtain ⟨outer, _, rfl, hout, ho⟩ := List.map_eq_cons_iff.1 ho
  obtain rfl := List.map_eq_nil_iff.1 ho
  simp only [outline, Prod.mk.injEq] at hi hout
  refine ⟨inner, outer, hf, hi.1, ?_, hout.2.2⟩
  rw [← List.mem_map, hi.2.1]
  exact List.mem_cons_self

end Sample

/-- In the sample program the file at the root refers to the other one by an import below the root of
    the module, and a directory is told from another one that ends like it. -/
theorem references_agree_sample :
    Sample.importing.Agree { Sample.importing with packageDir := "models/dto" } "models" "User" ∧
      Program.modulePath? Sample.tree Sample.root = some "example.com/app/svc" ∧
      ∃ p outer inner found, p = Sample.load Sample.paths ∧
        p.files = [inner, outer] ∧ (p.scope outer).Agree (p.scope inner) "dto" "User" ∧
        p.table.get? ⟨"dto", "User"⟩ = some found := by
  obtain ⟨hany, hload⟩ := references_agree
  have hm : Program.modulePath? Sample.tree Sample.root = some "example.com/app/svc" := by
    decide +kernel
  refine ⟨?_, hm, ?_⟩
  · have hj : "example.com/app" = joinPath "example.com" "app" := by decide
    apply (hany _ _ _ ["", "dto", "models/dto"] _ hj rfl).1 _ _ _ _ rfl (by decide) _ (by decide)
      (by decide)
    exact ⟨by decide +kernel, by decide +kernel⟩
  · obtain ⟨inner, outer, hf, hd, ⟨decl, hdecl, hn⟩, hi⟩ := Sample.files_load
    have hinner : inner ∈ (Sample.load Sample.paths).files := by
      rw [hf]
      exact List.mem_cons_self
    have himports : ((Sample.load Sample.paths).scope outer).Imports
        (joinPath "example.com/app/svc" inner.packageDir) "dto" := by
      have hj : joinPath "example.com/app/svc" "dto" = "example.com/app/svc/dto" := by decide
      rw [hd, hj]
      apply Scope.imports_singleton (i := ⟨"example.com/app/svc/dto", some "dto"⟩)
      exact hi
    obtain ⟨ha, hfound⟩ := (hload _ _ _ _ _ _ rfl hm).2 outer inner "dto" "User" hinner himports
      (by decide) (by decide)
    obtain ⟨found, hg, _⟩ := hfound _ ⟨inner, hinner, decl, hdecl, rfl, hn, rfl⟩
    rw [hd] at hg
    exact ⟨_, outer, inner, found, rfl, hf, ha, hg⟩

end FieldAudit
