import Mathlib
import FieldAudit.Proofs.EmbeddingTree
import FieldAudit.Proofs.Gaps

/-!
# Fields that are reported under one path

The leaves of an embedding tree are told apart by their full paths, on which the embedded fields above
them are named. A report has every missing field once, but names it without the embedded fields. So a
path is repeated in a report exactly if two missing fields have full paths that differ in embedded fields
only: a field and one that it shadows, fields of two embedded structs, or the fields of a struct that
embeds itself.
-/

namespace FieldAudit

/-! ## Full paths -/

/-- Neither path goes on the other one. -/
def Apart (p q : Path) : Prop := ¬ p <+: q ∧ ¬ q <+: p

/-- Paths that are apart stay different however they go on. -/
lemma Apart.append_ne {p q : Path} (h : Apart p q) (r s : Path) : p ++ r ≠ q ++ s := by
  intro e
  have hp : p <+: q ++ s := ⟨r, e⟩
  rcases List.prefix_or_prefix_of_prefix hp (List.prefix_append q s) with hpq | hqp
  · exact h.1 hpq
  · exact h.2 hqp

/-- Paths stay apart below a common name. -/
lemma Apart.cons {p q : Path} (h : Apart p q) (name : String) : Apart (name :: p) (name :: q) :=
  ⟨fun hpq => h.1 (List.cons_prefix_cons.1 hpq).2, fun hqp => h.2 (List.cons_prefix_cons.1 hqp).2⟩

/-- Paths that begin differently are apart. -/
lemma apart_of_ne {a b : String} (h : a ≠ b) (p q : Path) : Apart (a :: p) (b :: q) :=
  ⟨fun hpq => h (List.cons_prefix_cons.1 hpq).1, fun hqp => h (List.cons_prefix_cons.1 hqp).1.symm⟩

namespace EmbeddingForest

/-- The names that lead to a leaf: those of the embedded fields above it, and its own. -/
def Leaf.fullPath (leaf : Leaf) : Path := leaf.above.map (·.name) ++ [leaf.field.name]

/-- At least one name leads to a leaf. -/
lemma Leaf.fullPath_ne_nil (leaf : Leaf) : leaf.fullPath ≠ [] := by
  simp [Leaf.fullPath]

/-- The names that lead to the last one of a chain of leaves, each of them a leaf of the struct that the
    one before it is. -/
def fullPath (place : List Leaf) : Path := place.flatMap Leaf.fullPath

/-- The names of the leaves of a chain, without those of embedded fields. -/
def fieldPath (place : List Leaf) : Path := place.map (·.field.name)

/-- At least one name leads along a chain of leaves. -/
lemma fullPath_ne_nil {place : List Leaf} (h : place ≠ []) : fullPath place ≠ [] := by
  obtain ⟨leaf, rest, rfl⟩ := List.exists_cons_of_ne_nil h
  rw [fullPath, List.flatMap_cons]
  exact List.append_ne_nil_of_left_ne_nil leaf.fullPath_ne_nil _

/-- A chain of leaves is written with the names of its fields. -/
lemma dotted_info (place : List Leaf) :
    dotted (place.map Leaf.info) = ".".intercalate (fieldPath place) := by
  rw [dotted, List.map_map]
  rfl

end EmbeddingForest

/-- The declared fields of a struct, none for another type. -/
def Definition.fields : Definition → List (FieldDef Ty)
  | struct fields => fields
  | type _ => []

namespace TypeTable

open EmbeddingForest

variable {t : TypeTable}

/-- The fields of a declared struct have different names, and no name is empty or has a dot in it. -/
def WellNamed (t : TypeTable) : Prop :=
  ∀ named ∈ t.types, (named.definition.fields.map (·.name)).Nodup ∧
    ∀ field ∈ named.definition.fields, field.name ≠ "" ∧ '.' ∉ field.name.toList

instance (t : TypeTable) : Decidable t.WellNamed :=
  inferInstanceAs (Decidable (∀ named ∈ t.types, _ ∧ ∀ field ∈ named.definition.fields, _))

/-- The fields found under a key have different names. -/
lemma WellNamed.nodup (ht : t.WellNamed) {key : TypeKey} {fields : List (FieldDef Ty)}
    (hk : t.structFields? key = some fields) : (fields.map (·.name)).Nodup := by
  obtain ⟨named, hn, e⟩ := exists_of_fieldsWithin hk
  have h := (ht named hn).1
  rw [e] at h
  exact h

/-- In a table with proper names no name has a dot. -/
lemma WellNamed.dotFree (ht : t.WellNamed) : t.DotFree := by
  apply dotFree_of_types
  intro named hn fields e field hf
  have h := (ht named hn).2
  rw [e] at h
  exact (h field hf).2

/-- The full path of a leaf starts with the name of one of the fields. -/
lemma Unfolds.exists_head {above : Nat} {fields : List (FieldDef Ty)} {forest : EmbeddingForest}
    (h : t.Unfolds above fields forest) {leaf : Leaf} (hl : leaf ∈ forest.leaves) :
    ∃ name ∈ fields.map (·.name), ∃ rest, leaf.fullPath = name :: rest := by
  induction h generalizing leaf with
  | nil => cases hl
  | leaf _ _ ih =>
    rcases List.mem_cons.1 hl with rfl | hl
    · exact ⟨_, List.mem_cons_self, [], rfl⟩
    · obtain ⟨name, hn, rest, e⟩ := ih hl
      exact ⟨name, List.mem_cons_of_mem _ hn, rest, e⟩
  | node _ _ _ _ ihr =>
    rcases List.mem_append.1 hl with hl | hl
    · obtain ⟨inner, _, rfl⟩ := List.mem_map.1 hl
      exact ⟨_, List.mem_cons_self, _, rfl⟩
    · obtain ⟨name, hn, rest, e⟩ := ihr hl
      exact ⟨name, List.mem_cons_of_mem _ hn, rest, e⟩

/-- The leaves of the fields after a field have other first names than what stands below it. -/
lemma Unfolds.apart_of_not_mem {above : Nat} {fields : List (FieldDef Ty)} {rest : EmbeddingForest}
    (h : t.Unfolds above fields rest) {name : String} (hn : name ∉ fields.map (·.name)) {leaf : Leaf}
    (hl : leaf ∈ rest.leaves) (path : Path) : Apart (name :: path) leaf.fullPath := by
  obtain ⟨first, hf, tail, e⟩ := h.exists_head hl
  rw [e]
  apply apart_of_ne
  rintro rfl
  exact hn hf

/-- No full path of a leaf goes on that of another one. -/
lemma Unfolds.pairwise_apart (ht : t.WellNamed) {above : Nat} {fields : List (FieldDef Ty)}
    {forest : EmbeddingForest} (h : t.Unfolds above fields forest)
    (hf : (fields.map (·.name)).Nodup) :
    forest.leaves.Pairwise fun l l' => Apart l.fullPath l'.fullPath := by
  induction h with
  | nil => exact .nil
  | leaf _ hr ih =>
    obtain ⟨hhead, htail⟩ := List.nodup_cons.1 hf
    exact .cons (fun leaf hl => hr.apart_of_not_mem hhead hl []) (ih htail)
  | @node above field inner fields below rest ho _ hr ihb ihr =>
    obtain ⟨hhead, htail⟩ := List.nodup_cons.1 hf
    obtain ⟨key, _, hk⟩ := ho.struct
    refine List.pairwise_append.2 ⟨?_, ihr htail, ?_⟩
    · rw [List.pairwise_map]
      exact (ihb (ht.nodup hk)).imp fun h => h.cons field.name
    · intro l hl l' hl'
      obtain ⟨leaf, _, rfl⟩ := List.mem_map.1 hl
      exact hr.apart_of_not_mem hhead hl' leaf.fullPath

/-! ## Chains of leaves -/

/-- The leaves of the embedding tree of the struct that a type, or its pointee, is. -/
def leavesOf (t : TypeTable) (type : Ty) : List Leaf :=
  ((t.embeddedFields? type).map fun fields => (t.embeddingForest 4 fields).leaves).getD []

/-- Each leaf of the chain is a leaf of the single struct that the one before it is, and the first one is
    in the list. -/
inductive Leads (t : TypeTable) : List Leaf → List Leaf → Prop where
  | leaf {leaves : List Leaf} {leaf : Leaf} :
    leaf ∈ leaves →
    Leads t leaves [leaf]
  | inside {leaves : List Leaf} {leaf : Leaf} {place : List Leaf} :
    leaf ∈ leaves →
    Leads t (t.leavesOf leaf.field.type) place →
    Leads t leaves (leaf :: place)

/-- The chains of at most this length: a leaf, what is below it, and then the next leaf. -/
def places (t : TypeTable) : Nat → List Leaf → List (List Leaf)
  | 0, _ => []
  | length + 1, leaves => leaves.flatMap fun leaf =>
    [leaf] :: (t.places length (t.leavesOf leaf.field.type)).map (leaf :: ·)

/-- A chain of leaves has at least one. -/
lemma Leads.ne_nil {leaves place : List Leaf} (h : t.Leads leaves place) : place ≠ [] := by
  cases h with
  | leaf _ => exact List.cons_ne_nil _ _
  | inside _ _ => exact List.cons_ne_nil _ _

/-- The listed chains are those of at most the given length. -/
lemma mem_places {length : Nat} {leaves place : List Leaf} :
    place ∈ t.places length leaves ↔ t.Leads leaves place ∧ place.length ≤ length := by
  induction length generalizing leaves place with
  | zero =>
    refine ⟨nofun, fun ⟨h, hl⟩ => ?_⟩
    exact absurd (List.length_eq_zero_iff.1 (Nat.le_zero.1 hl)) h.ne_nil
  | succ length ih =>
    simp only [places, List.mem_flatMap, List.mem_cons, List.mem_map, ih]
    constructor
    · rintro ⟨leaf, hm, rfl | ⟨rest, ⟨hr, hl⟩, rfl⟩⟩
      · exact ⟨.leaf hm, by simp⟩
      · exact ⟨.inside hm hr, Nat.succ_le_succ hl⟩
    · rintro ⟨h, hl⟩
      cases h with
      | @leaf _ leaf hm => exact ⟨leaf, hm, .inl rfl⟩
      | @inside _ leaf rest hm hr =>
        exact ⟨leaf, hm, .inr ⟨rest, ⟨hr, Nat.le_of_succ_le_succ hl⟩, rfl⟩⟩

/-- The leaves of a struct have paths that are apart. -/
lemma pairwise_leavesOf (ht : t.WellNamed) (type : Ty) :
    (t.leavesOf type).Pairwise fun l l' => Apart l.fullPath l'.fullPath := by
  unfold leavesOf
  cases h : t.embeddedFields? type with
  | none => exact .nil
  | some fields =>
    obtain ⟨key, _, hk⟩ := embeddedFields?_eq_some.1 h
    exact (unfolds_embeddingForest rfl fields).pairwise_apart ht (ht.nodup hk)

/-- A chain that starts with a leaf has a full path that starts with that of the leaf. -/
lemma exists_append_of_mem {length : Nat} {leaf : Leaf} {path : Path}
    (h : path ∈ ([leaf] :: (t.places length (t.leavesOf leaf.field.type)).map (leaf :: ·)).map
      fullPath) : ∃ rest, path = leaf.fullPath ++ rest := by
  obtain ⟨place, hp, rfl⟩ := List.mem_map.1 h
  rcases List.mem_cons.1 hp with rfl | hp
  · exact ⟨[], rfl⟩
  · obtain ⟨rest, _, rfl⟩ := List.mem_map.1 hp
    exact ⟨fullPath rest, rfl⟩

/-- No two chains have the same full path. -/
lemma nodup_fullPath (ht : t.WellNamed) {length : Nat} {leaves : List Leaf}
    (hl : leaves.Pairwise fun l l' => Apart l.fullPath l'.fullPath) :
    ((t.places length leaves).map fullPath).Nodup := by
  induction length generalizing leaves with
  | zero => exact List.nodup_nil
  | succ length ih =>
    rw [places, List.map_flatMap, List.nodup_flatMap]
    constructor
    · intro leaf _
      have below := ih (pairwise_leavesOf ht leaf.field.type)
      rw [List.map_cons, List.map_map, List.nodup_cons]
      constructor
      · -- the full path of the leaf alone is shorter than those of the chains that go on
        intro h
        obtain ⟨rest, hr, e⟩ := List.mem_map.1 h
        have hne := fullPath_ne_nil (mem_places.1 hr).1.ne_nil
        exact hne (List.append_cancel_left e)
      · have e : fullPath ∘ (leaf :: ·) = (leaf.fullPath ++ ·) ∘ fullPath := rfl
        rw [e, ← List.map_map]
        exact below.map (List.append_right_injective _)
    · refine hl.imp fun {l l'} ha => ?_
      intro path hp hp'
      obtain ⟨rest, rfl⟩ := exists_append_of_mem hp
      obtain ⟨rest', e⟩ := exists_append_of_mem hp'
      exact ha.append_ne rest rest' e

/-! ## Chains of leaves as chains of fields -/

/-- A type of single shape around a name is the name or a pointer to it. -/
lemma single_iff {type : Ty} {key : TypeKey} :
    (unwrap type).1.isSingle = true ∧ (unwrap type).2 = .named key ↔
      type = .named key ∨ type = .pointer (.named key) := by
  cases type with
  | pointer of => cases of <;> simp [unwrap, unwrapContainer, Shape.isSingle]
  | slice of => cases of <;> simp [unwrap, unwrapContainer, Shape.isSingle]
  | array of => cases of <;> simp [unwrap, unwrapContainer, Shape.isSingle]
  | map key value => cases value <;> simp [unwrap, unwrapContainer, Shape.isSingle]
  | _ => simp [unwrap, unwrapContainer, Shape.isSingle]

/-- The fields of a single value are the flat fields of the struct that it or its pointee is. -/
lemma singleFields?_eq (t : TypeTable) (type : Ty) :
    t.singleFields? type = (t.embeddedFields? type).map (t.flatten maxEmbedding none) := by
  apply Option.ext
  intro fields
  simp only [singleFields?, Option.map_eq_some_iff, Option.filter_eq_some_iff, candidate?_eq_some,
    embeddedFields?_eq_some]
  constructor
  · rintro ⟨_, ⟨⟨key, declared, hu, hk, rfl⟩, hs⟩, rfl⟩
    exact ⟨declared, ⟨key, single_iff.1 ⟨hs, hu⟩, hk⟩, rfl⟩
  · rintro ⟨declared, ⟨key, hs, hk⟩, rfl⟩
    obtain ⟨hs, hu⟩ := single_iff.2 hs
    exact ⟨_, ⟨⟨key, declared, hu, hk, rfl⟩, hs⟩, rfl⟩

/-- The fields of a single value are the leaves of its embedding tree. -/
lemma getD_singleFields? (t : TypeTable) (type : Ty) :
    (t.singleFields? type).getD [] = (t.leavesOf type).map Leaf.info := by
  rw [singleFields?_eq, leavesOf]
  cases t.embeddedFields? type with
  | none => rfl
  | some fields => exact flatten_eq_leaves (unfolds_embeddingForest rfl fields)

/-- Chains of fields are those of leaves, seen as fields. -/
lemma chains_info (t : TypeTable) (length : Nat) (leaves : List Leaf) :
    t.chains length (leaves.map Leaf.info) = (t.places length leaves).map (List.map Leaf.info) := by
  induction length generalizing leaves with
  | zero => rfl
  | succ length ih =>
    rw [chains, places, List.flatMap_map, List.map_flatMap]
    congr 1
    funext leaf
    rw [show leaf.info.type = leaf.field.type from rfl, getD_singleFields?, ih]
    simp only [List.map_cons, List.map_nil, List.map_map, Function.comp_def]

/-- The fields of a candidate are the leaves of the embedding tree of its struct. -/
lemma fields_of_candidate? {type : Ty} {c : Candidate} (hc : t.candidate? type = some c) :
    c.fields = (t.leavesOf (unwrap type).2).map Leaf.info := by
  obtain ⟨key, fields, hu, hk, rfl⟩ := candidate?_eq_some.1 hc
  rw [hu, leavesOf, show t.embeddedFields? (.named key) = some fields from hk]
  exact flatten_eq_leaves (unfolds_embeddingForest rfl fields)

/-- Names of fields to which a chain leads have no dot in them. -/
lemma Leads.dotFree (ht : t.WellNamed) {type : Ty} {place : List Leaf}
    (h : t.Leads (t.leavesOf type) place) : ∀ name ∈ fieldPath place, '.' ∉ name.toList := by
  have hm : place ∈ t.places place.length (t.leavesOf type) := mem_places.2 ⟨h, Nat.le_refl _⟩
  have hd : t.Declares ((t.singleFields? type).getD []) (place.map Leaf.info) := by
    rw [getD_singleFields?]
    apply And.left
    apply mem_chains.1
    rw [chains_info]
    exact List.mem_map_of_mem hm
  have hf : ∀ f ∈ (t.singleFields? type).getD [], '.' ∉ f.name.toList := by
    cases hs : t.singleFields? type with
    | none => nofun
    | some inner => exact fun f hf => dotFree_of_singleFields? ht.dotFree hs hf
  intro name hn
  obtain ⟨leaf, hl, rfl⟩ := List.mem_map.1 hn
  exact hd.dotFree ht.dotFree hf leaf.info (List.mem_map_of_mem hl)

end TypeTable

/-- Lists of names without dots are written differently unless they are equal. -/
lemma intercalate_inj {a b : List String} (ha : a ≠ []) (hb : b ≠ [])
    (da : ∀ name ∈ a, '.' ∉ name.toList) (db : ∀ name ∈ b, '.' ∉ name.toList) :
    ".".intercalate a = ".".intercalate b ↔ a = b := by
  refine ⟨fun e => ?_, fun e => e ▸ rfl⟩
  have pieces : a.map String.toList = b.map String.toList := by
    rw [← splitOn_dotted ha da, ← splitOn_dotted hb db, e]
  exact List.map_injective_iff.2 (fun _ _ => String.toList_injective) pieces

section

open EmbeddingForest

variable {settings : Settings} {table : TypeTable} {side : Side} {usage : Usage}
  {counterpart : List FieldInfo}

/-- The chains of leaves with a gap at their end, in the order of declaration. -/
def missingPlaces (settings : Settings) (table : TypeTable) (side : Side) (usage : Usage)
    (leaves : List Leaf) (counterpart : List FieldInfo) : List (List Leaf) :=
  (table.places (usage.depth + 1) leaves).filter fun place =>
    isGap settings table side usage counterpart (place.map Leaf.info)

/-- The missing fields are the missing places, written with the names of their fields. -/
lemma missingFields_eq_places (leaves : List Leaf) :
    missingFields settings table side usage (leaves.map Leaf.info) counterpart =
      (missingPlaces settings table side usage leaves counterpart).map fun place =>
        ".".intercalate (fieldPath place) := by
  rw [missingFields_eq_gaps (Nat.lt_succ_self usage.depth), TypeTable.chains_info, List.filter_map,
    List.map_map]
  apply List.map_congr_left
  intro place _
  exact dotted_info place

/-- The missing places are the chains of leaves with a gap at their end. -/
lemma mem_missingPlaces {leaves place : List Leaf} :
    place ∈ missingPlaces settings table side usage leaves counterpart ↔
      table.Leads leaves place ∧
        Gap settings table side usage counterpart (place.map Leaf.info) := by
  rw [missingPlaces, List.mem_filter, TypeTable.mem_places, isGap_iff, and_assoc]
  refine and_congr_right fun _ => ⟨And.right, fun h => ⟨?_, h⟩⟩
  have hl := h.length_le
  rwa [List.length_map] at hl

/-- The fields that are missing in a candidate are reported once each, told apart by their full paths. A
    report has a path twice exactly if two missing fields differ only in the embedded fields above them. -/
theorem missingFields_once_by_fullPath {type : Ty} {c : Candidate} (ht : table.WellNamed)
    (hc : table.candidate? type = some c) (settings : Settings) (side : Side) (usage : Usage)
    (counterpart : List FieldInfo) :
    ∃ places : List (List Leaf),
      missingFields settings table side usage c.fields counterpart =
        places.map (fun place => ".".intercalate (fieldPath place)) ∧
      (∀ place, place ∈ places ↔
        table.Leads (table.leavesOf (TypeTable.unwrap type).2) place ∧
          Gap settings table side usage counterpart (place.map Leaf.info)) ∧
      (places.map fullPath).Nodup ∧
      ((missingFields settings table side usage c.fields counterpart).Nodup ↔
        ∀ p ∈ places, ∀ q ∈ places, fieldPath p = fieldPath q → fullPath p = fullPath q) := by
  rw [TypeTable.fields_of_candidate? hc, missingFields_eq_places]
  have nodup : ((missingPlaces settings table side usage (table.leavesOf (TypeTable.unwrap type).2)
      counterpart).map fullPath).Nodup := by
    apply List.Nodup.sublist (List.filter_sublist.map fullPath)
    exact TypeTable.nodup_fullPath ht (TypeTable.pairwise_leavesOf ht _)
  refine ⟨_, rfl, fun place => mem_missingPlaces, nodup, ?_⟩
  rw [List.nodup_map_iff_inj_on nodup.of_map]
  refine forall₂_congr fun p hp => forall₂_congr fun q hq => ?_
  have lp := (mem_missingPlaces.1 hp).1
  have lq := (mem_missingPlaces.1 hq).1
  rw [intercalate_inj (by simpa [fieldPath] using lp.ne_nil) (by simpa [fieldPath] using lq.ne_nil)
    (lp.dotFree ht) (lq.dotFree ht)]
  refine imp_congr_right fun _ => ⟨fun e => e ▸ rfl, fun e => ?_⟩
  exact List.inj_on_of_nodup_map nodup hp hq e

end

namespace Sample

open EmbeddingForest

/-- An exported embedded field. -/
def embedded (name : String) (type : Ty) : FieldDef Ty :=
  { name, exported := true, embedded := true, type }

/-- A user with an identity that shadows the one of the embedded `Base`. -/
def shadowing : TypeTable :=
  { types :=
      [{ key := ⟨"", "User"⟩
         definition := .struct [embedded "Base" (.named ⟨"", "Base"⟩), text "ID"] },
       { key := ⟨"", "Base"⟩, definition := .struct [text "ID"] }] }

/-- A user that embeds two structs with an identity each. -/
def ambiguous : TypeTable :=
  { types :=
      [{ key := ⟨"", "User"⟩
         definition := .struct
          [embedded "Base" (.named ⟨"", "Base"⟩), embedded "Audit" (.named ⟨"", "Audit"⟩)] },
       { key := ⟨"", "Base"⟩, definition := .struct [text "ID"] },
       { key := ⟨"", "Audit"⟩, definition := .struct [text "ID"] }] }

/-- A user that embeds a pointer to a user. -/
def recursive : TypeTable :=
  { types :=
      [{ key := ⟨"", "User"⟩
         definition := .struct
          [embedded "User" (.pointer (.named ⟨"", "User"⟩)), text "ID"] }] }

/-- The identity of the embedded `Base`. -/
def baseID : Leaf := ⟨[embedded "Base" (.named ⟨"", "Base"⟩)], text "ID"⟩

/-- The identity that shadows the one of the embedded `Base`. -/
def ownID : Leaf := ⟨[], text "ID"⟩

end Sample

/-- With nothing read of a user, the identity and the one that it shadows are missing by different full
    paths, so that the report has a path twice. -/
theorem missingFields_shadowed :
    Sample.shadowing.WellNamed ∧ ∃ c, Sample.shadowing.candidate? (.named ⟨"", "User"⟩) = some c ∧
      EmbeddingForest.fullPath [Sample.baseID] = ["Base", "ID"] ∧
      EmbeddingForest.fullPath [Sample.ownID] = ["ID"] ∧
      ¬ (missingFields {} Sample.shadowing .source ∅ c.fields []).Nodup := by
  have ht : Sample.shadowing.WellNamed := by decide
  have hc : Sample.shadowing.candidate? (.named ⟨"", "User"⟩) = some _ :=
    TypeTable.candidate?_eq_some.2 ⟨⟨"", "User"⟩, _, rfl, rfl, rfl⟩
  refine ⟨ht, _, hc, rfl, rfl, fun nodup => ?_⟩
  obtain ⟨places, _, mem, _, iff⟩ := missingFields_once_by_fullPath ht hc {} .source ∅ []
  have leaves : Sample.shadowing.leavesOf (.named ⟨"", "User"⟩) = [Sample.baseID, Sample.ownID] := rfl
  have base : [Sample.baseID] ∈ places :=
    (mem _).2 ⟨.leaf (leaves ▸ List.mem_cons_self), gap_singleton.2 (by decide +kernel)⟩
  have own : [Sample.ownID] ∈ places :=
    (mem _).2 ⟨.leaf (leaves ▸ List.mem_cons_of_mem _ List.mem_cons_self),
      gap_singleton.2 (by decide +kernel)⟩
  exact absurd (iff.1 nodup _ base _ own rfl) (by decide)

/-- A path is repeated where a field shadows a promoted one, where two embedded structs promote one name,
    and where a struct embeds itself through a pointer, though all declared names are different. -/
theorem missingFields_repeated :
    (Sample.shadowing.WellNamed ∧
      (Sample.shadowing.candidate? (.named ⟨"", "User"⟩)).map
        (missingFields {} Sample.shadowing .source ∅ ·.fields []) = some ["ID", "ID"] ∧
      ¬ ["ID", "ID"].Nodup) ∧
    (Sample.ambiguous.WellNamed ∧
      (Sample.ambiguous.candidate? (.named ⟨"", "User"⟩)).map
        (missingFields {} Sample.ambiguous .source ∅ ·.fields []) = some ["ID", "ID"] ∧
      ¬ ["ID", "ID"].Nodup) ∧
    (Sample.recursive.WellNamed ∧
      (Sample.recursive.candidate? (.named ⟨"", "User"⟩)).map
        (missingFields {} Sample.recursive .source ∅ ·.fields []) =
          some ["User", "ID", "ID", "ID", "ID", "ID"] ∧
      ¬ ["User", "ID", "ID", "ID", "ID", "ID"].Nodup) := by
  refine ⟨⟨?_, ?_, ?_⟩, ⟨?_, ?_, ?_⟩, ?_, ?_, ?_⟩ <;> decide +kernel

end FieldAudit
