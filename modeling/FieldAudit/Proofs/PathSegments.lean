import Mathlib
import FieldAudit.Proofs.ImportPaths
import FieldAudit.Proofs.TextPieces

/-!
# Import paths by their segments

The directories that end a path end one another, so there is one longest among them, however they are
listed. A directory that is chosen for a path, below the module or by its end, consists of the last
segments of the path between its slashes.
-/

namespace FieldAudit

/-- The parts of a path between its slashes. -/
def segments (path : String) : List (List Char) := Text.splitAt '/' path.toList

/-! ## Segments -/

/-- The segments of a path below a place are those of the place and then those of the path. -/
lemma segments_below (place dir : String) :
    segments (place ++ "/" ++ dir) = segments place ++ segments dir := by
  have e : (place ++ "/" ++ dir).toList = place.toList ++ '/' :: dir.toList := by simp
  rw [segments, e, Text.splitAt_append_sep]
  rfl

/-! ## Directories at the end of a path -/

variable {a b path : String}

/-- A directory is a tail of a path exactly if both end alike from a slash on. -/
lemma isTail_iff : IsTail a path ↔ a ≠ "" ∧ '/' :: a.toList <:+ '/' :: path.toList := by
  rw [← Resolver.endsPath_iff, List.suffix_cons_iff, List.cons_inj_right, String.toList_inj,
    @eq_comm _ a path]
  simp only [Resolver.endsPath, Bool.and_eq_true, Bool.or_eq_true, bne_iff_ne, beq_iff_eq,
    Text.endsWith_iff]

/-- Of two directories that end a path one ends the other. -/
lemma IsTail.total (ha : IsTail a path) (hb : IsTail b path) : IsTail a b ∨ IsTail b a := by
  rw [isTail_iff] at ha hb
  rcases List.suffix_or_suffix_of_suffix ha.2 hb.2 with h | h
  · exact .inl (isTail_iff.2 ⟨ha.1, h⟩)
  · exact .inr (isTail_iff.2 ⟨hb.1, h⟩)

/-- A tail of a path consists of the last segments of the path. -/
lemma IsTail.segments (h : IsTail a path) : segments a <:+ segments path := by
  rcases h.2 with rfl | ⟨front, rfl⟩
  · exact List.suffix_rfl
  · rw [segments_below]
    exact List.suffix_append _ _

namespace Resolver

variable {r : Resolver}

/-- A path has one longest tail among the directories. -/
lemma LongestTail.unique (ha : r.LongestTail a path) (hb : r.LongestTail b path) : a = b := by
  rcases ha.isTail.total hb.isTail with h | h
  · exact eq_of_isTail_of_size_le h (ha.longest b hb.mem hb.isTail)
  · exact (eq_of_isTail_of_size_le h (hb.longest a ha.mem ha.isTail)).symm

/-- The directory that is taken for a path by its end, or the path if there is none. -/
lemma getD_bySuffix?_eq_iff {result : String} :
    (r.bySuffix? path).getD path = result ↔
      r.LongestTail result path ∨ (∀ dir ∈ r.packageDirs, ¬ IsTail dir path) ∧ result = path := by
  rcases bySuffix?_cases r path with ⟨e, hnone⟩ | ⟨best, e, hbest⟩
  · rw [e, Option.getD_none]
    constructor
    · intro h
      exact .inr ⟨hnone, h.symm⟩
    · rintro (h | ⟨_, h⟩)
      · exact absurd h.isTail (hnone result h.mem)
      · exact h.symm
  · rw [e, Option.getD_some]
    constructor
    · rintro rfl
      exact .inl hbest
    · rintro (h | ⟨hnone, _⟩)
      · exact hbest.unique h
      · exact absurd hbest.isTail (hnone best hbest.mem)

/-- What is chosen for a path makes up its last segments, unless the path is that of the module. -/
lemma packageOf_segments (r : Resolver) (path : String) :
    r.packageOf path = path ∨ r.modulePath = some path ∧ r.packageOf path = "" ∨
      r.packageOf path ∈ r.packageDirs ∧ segments (r.packageOf path) <:+ segments path := by
  cases hm : r.inModule? path with
  | some dir =>
    have chosen : r.packageOf path = dir := by
      rw [packageOf, hm]
      rfl
    rw [chosen]
    obtain ⟨module, hmodule, ⟨rfl, rfl⟩ | ⟨rfl, hdir⟩⟩ := inModule?_eq_some.1 hm
    · exact .inr (.inl ⟨hmodule, rfl⟩)
    · refine .inr (.inr ⟨hdir, ?_⟩)
      rw [segments_below]
      exact List.suffix_append _ _
  | none =>
    have chosen : (r.bySuffix? path).getD path = r.packageOf path := by
      rw [packageOf, hm, Option.none_or]
    rcases getD_bySuffix?_eq_iff.1 chosen with h | ⟨_, h⟩
    · exact .inr (.inr ⟨h.mem, h.isTail.segments⟩)
    · exact .inl h

/-- The package directories of a resolver are the listed ones. -/
lemma mem_ofDirs {modulePath : Option String} {dirs : List String} {dir : String} :
    dir ∈ (ofDirs modulePath dirs).packageDirs ↔ dir ∈ dirs :=
  OrderedSet.mem_ofList

/-- The longest tail is taken among the listed directories. -/
lemma longestTail_ofDirs {modulePath : Option String} {dirs : List String} {dir : String} :
    (ofDirs modulePath dirs).LongestTail dir path ↔ dir ∈ dirs ∧ IsTail dir path ∧
      ∀ other ∈ dirs, IsTail other path → other.utf8ByteSize ≤ dir.utf8ByteSize := by
  constructor
  · intro h
    exact ⟨mem_ofDirs.1 h.mem, h.isTail, fun other ho => h.longest other (mem_ofDirs.2 ho)⟩
  · rintro ⟨hd, ht, hl⟩
    exact ⟨mem_ofDirs.2 hd, ht, fun other ho => hl other (mem_ofDirs.1 ho)⟩

/-- The order of the directories and repetitions among them do not matter. -/
lemma ofDirs_congr {modulePath : Option String} {dirs dirs' : List String}
    (h : ∀ dir, dir ∈ dirs ↔ dir ∈ dirs') : ofDirs modulePath dirs = ofDirs modulePath dirs' := by
  have same : OrderedSet.ofList dirs = OrderedSet.ofList dirs' := by
    apply OrderedSet.ext_mem
    intro dir
    rw [OrderedSet.mem_ofList, OrderedSet.mem_ofList]
    exact h dir
  rw [ofDirs, same]
  rfl

end Resolver

/-- What an import path stands for depends only on which package directories there are. A path that is
    neither that of the module nor that of a package directory in it stands for the one longest
    directory that makes up its end behind a slash, or all of it, and for itself if there is none. So a
    directory is only chosen where its segments are the last ones of the path. -/
theorem packageOf_canonical (modulePath : Option String) (dirs : List String) (path : String) :
    (∀ dirs' : List String, (∀ dir, dir ∈ dirs ↔ dir ∈ dirs') →
      (Resolver.ofDirs modulePath dirs).packageOf path =
        (Resolver.ofDirs modulePath dirs').packageOf path) ∧
    (modulePath ≠ some path →
      (∀ module, modulePath = some module → ∀ dir ∈ dirs, path ≠ module ++ "/" ++ dir) →
      ∀ result, (Resolver.ofDirs modulePath dirs).packageOf path = result ↔
        (result ∈ dirs ∧ IsTail result path ∧
          ∀ dir ∈ dirs, IsTail dir path → dir.utf8ByteSize ≤ result.utf8ByteSize) ∨
        (∀ dir ∈ dirs, ¬ IsTail dir path) ∧ result = path) ∧
    ((Resolver.ofDirs modulePath dirs).packageOf path = path ∨
      modulePath = some path ∧ (Resolver.ofDirs modulePath dirs).packageOf path = "" ∨
      (Resolver.ofDirs modulePath dirs).packageOf path ∈ dirs ∧
        segments ((Resolver.ofDirs modulePath dirs).packageOf path) <:+ segments path) := by
  refine ⟨fun dirs' h => ?_, fun hne hout result => ?_, ?_⟩
  · rw [Resolver.ofDirs_congr h]
  · have outside : (Resolver.ofDirs modulePath dirs).packageOf path =
        ((Resolver.ofDirs modulePath dirs).bySuffix? path).getD path := by
      apply Resolver.packageOf_of_not_inModule hne
      intro module hm dir hd
      exact hout module hm dir (Resolver.mem_ofDirs.1 hd)
    rw [outside, Resolver.getD_bySuffix?_eq_iff, Resolver.longestTail_ofDirs]
    simp only [Resolver.mem_ofDirs]
  · rw [← Resolver.mem_ofDirs]
    exact Resolver.packageOf_segments (Resolver.ofDirs modulePath dirs) path

namespace Sample

/-- Package directories, one of them listed twice. -/
def listed : List String := ["models/dto", "dto", "", "dto"]

/-- A path that does not start with the module of the sample is none of its packages. -/
lemma outside_listed {path : String}
    (h : Text.startsWith path.toList ("example.com/app".toList ++ ['/']) = false) :
    ∀ module, some "example.com/app" = some module → ∀ dir ∈ listed, path ≠ module ++ "/" ++ dir := by
  intro module hm dir _
  obtain rfl := Option.some.inj hm
  exact Resolver.ne_below_of_startsWith h dir

end Sample

/-- Of the directories that end a path the longest is taken, however they are listed. A directory that
    ends a path inside of a segment is not. -/
theorem packageOf_canonical_listed :
    some "example.com/app" ≠ some "github.com/other/models/dto" ∧
      (Resolver.ofDirs (some "example.com/app") Sample.listed).packageOf
        "github.com/other/models/dto" = "models/dto" ∧
      (Resolver.ofDirs (some "example.com/app") ["dto", "", "models/dto"]).packageOf
        "github.com/other/models/dto" = "models/dto" ∧
      some "example.com/app" ≠ some "github.com/other/mydto" ∧
      (Resolver.ofDirs (some "example.com/app") Sample.listed).packageOf
        "github.com/other/mydto" = "github.com/other/mydto" := by
  obtain ⟨same, found, _⟩ :=
    packageOf_canonical (some "example.com/app") Sample.listed "github.com/other/models/dto"
  obtain ⟨_, unfound, _⟩ :=
    packageOf_canonical (some "example.com/app") Sample.listed "github.com/other/mydto"
  have size : ∀ dir ∈ Sample.listed, dir.utf8ByteSize ≤ "models/dto".utf8ByteSize := by decide
  have none : ∀ dir ∈ Sample.listed, ¬ Resolver.endsPath "github.com/other/mydto" dir = true := by
    decide
  have longest : (Resolver.ofDirs (some "example.com/app") Sample.listed).packageOf
      "github.com/other/models/dto" = "models/dto" := by
    refine (found (by decide) (Sample.outside_listed (by decide)) _).2 (.inl ⟨by decide, ?_, ?_⟩)
    · exact Resolver.endsPath_iff.1 (by decide)
    · exact fun dir hd _ => size dir hd
  refine ⟨by decide, longest, ?_, by decide, ?_⟩
  · rw [← same ["dto", "", "models/dto"] ?_]
    · exact longest
    · intro dir
      simp only [Sample.listed, List.mem_cons, List.not_mem_nil]
      tauto
  · refine (unfound (by decide) (Sample.outside_listed (by decide)) _).2 (.inr ⟨?_, rfl⟩)
    exact fun dir hd ht => none dir hd (Resolver.endsPath_iff.2 ht)

end FieldAudit
