import Mathlib
import FieldAudit.Proofs.Promotion

/-!
# The embedding tree

An embedded field of a struct type has the fields of that struct below it, these have what they embed
below them, and so on down to the fourth embedding, which cuts the tree where structs embed themselves
or each other. Flattening a list of fields lists the leaves of this tree from left to right, and each leaf
is promoted from the outermost embedded field above it.
-/

namespace FieldAudit

/-- Fields in their order, some of them with what they embed below them. -/
inductive EmbeddingForest where
  | nil
  /-- A field that stands for itself, and the fields after it. -/
  | leaf (field : FieldDef Ty) (rest : EmbeddingForest)
  /-- A field that embeds a struct, what is below it, and the fields after it. -/
  | node (field : FieldDef Ty) (below rest : EmbeddingForest)

namespace EmbeddingForest

/-- A leaf with the embedded fields above it, outermost first. -/
structure Leaf where
  above : List (FieldDef Ty)
  field : FieldDef Ty

/-- The same leaf seen from above an embedded field. -/
def Leaf.under (outer : FieldDef Ty) (leaf : Leaf) : Leaf := ⟨outer :: leaf.above, leaf.field⟩

/-- The outermost embedded field above the leaf, by name. -/
def Leaf.origin (leaf : Leaf) : Option String := leaf.above.head?.map (·.name)

/-- The leaf as the audit sees it. -/
def Leaf.info (leaf : Leaf) : FieldInfo := leaf.field.info leaf.origin

/-- The leaves from left to right. -/
def leaves : EmbeddingForest → List Leaf
  | nil => []
  | leaf field rest => ⟨[], field⟩ :: rest.leaves
  | node field below rest => below.leaves.map (.under field) ++ rest.leaves

end EmbeddingForest

namespace TypeTable

variable {t : TypeTable} {above : Nat} {fields inner : List (FieldDef Ty)}
  {field : FieldDef Ty} {forest : EmbeddingForest}

/-- A field with this many embeddings above it has the fields of a struct below it: it is embedded, its
    type is a struct of the table or a pointer to one, and fewer than four embeddings lie above it. -/
structure Opens (t : TypeTable) (above : Nat) (field : FieldDef Ty)
    (inner : List (FieldDef Ty)) : Prop where
  embedded : field.embedded = true
  struct : ∃ key, (field.type = .named key ∨ field.type = .pointer (.named key)) ∧
    t.structFields? key = some inner
  shallow : above < 4

/-- The forest of a list of fields that have this many embeddings above them. -/
inductive Unfolds (t : TypeTable) : Nat → List (FieldDef Ty) → EmbeddingForest → Prop where
  | nil {above : Nat} :
    Unfolds t above [] .nil
  | leaf {above : Nat} {field : FieldDef Ty} {fields : List (FieldDef Ty)}
      {rest : EmbeddingForest} :
    (∀ inner, ¬ t.Opens above field inner) →
    Unfolds t above fields rest →
    Unfolds t above (field :: fields) (.leaf field rest)
  | node {above : Nat} {field : FieldDef Ty} {inner fields : List (FieldDef Ty)}
      {below rest : EmbeddingForest} :
    t.Opens above field inner →
    Unfolds t (above + 1) inner below →
    Unfolds t above fields rest →
    Unfolds t above (field :: fields) (.node field below rest)

/-- The fields of an embedded type are those of the struct that it or its pointer names. -/
lemma embeddedFields?_eq_some {type : Ty} :
    t.embeddedFields? type = some inner ↔
      ∃ key, (type = .named key ∨ type = .pointer (.named key)) ∧
        t.structFields? key = some inner := by
  constructor
  · intro h
    unfold embeddedFields? at h
    split at h
    · exact ⟨_, .inl rfl, h⟩
    · exact ⟨_, .inr rfl, h⟩
    · cases h
  · rintro ⟨key, rfl | rfl, hk⟩
    · exact hk
    · exact hk

/-- A field opens to inner fields exactly if it embeds a struct and fewer than four embeddings are
    above it. -/
lemma opens_iff : t.Opens above field inner ↔ above < 4 ∧ t.embedded? field = some inner := by
  constructor
  · intro h
    refine ⟨h.shallow, ?_⟩
    rw [embedded?, if_pos h.embedded, embeddedFields?_eq_some]
    exact h.struct
  · rintro ⟨hl, h⟩
    unfold embedded? at h
    split at h
    · exact ⟨‹_›, embeddedFields?_eq_some.1 h, hl⟩
    · cases h

/-- What a field opens into is determined by the table. -/
lemma Opens.unique {other : List (FieldDef Ty)} (h : t.Opens above field inner)
    (h' : t.Opens above field other) : inner = other := by
  have e := (opens_iff.1 h).2
  rw [(opens_iff.1 h').2] at e
  exact (Option.some.inj e).symm

/-! ## One forest for every list of fields -/

/-- The forest of a list of fields, down to `depth` embeddings. -/
def embeddingForest (t : TypeTable) : Nat → List (FieldDef Ty) → EmbeddingForest
  | 0, fields => fields.foldr .leaf .nil
  | depth + 1, fields => fields.foldr (fun field rest => (t.embedded? field).elim
      (.leaf field rest) fun inner => .node field (t.embeddingForest depth inner) rest) .nil

/-- The forest that is computed is an unfolding of the fields. -/
lemma unfolds_embeddingForest {depth : Nat} (hd : above + depth = 4) (fields : List (FieldDef Ty)) :
    t.Unfolds above fields (t.embeddingForest depth fields) := by
  induction depth generalizing above fields with
  | zero =>
    induction fields with
    | nil => exact .nil
    | cons field fields ih =>
      refine .leaf (fun inner h => ?_) ih
      have := h.shallow
      omega
  | succ depth ihd =>
    induction fields with
    | nil => exact .nil
    | cons field fields ih =>
      rw [embeddingForest, List.foldr_cons]
      cases he : t.embedded? field with
      | none =>
        refine .leaf (fun inner h => ?_) ih
        rw [(opens_iff.1 h).2] at he
        cases he
      | some inner =>
        have ho : t.Opens above field inner := opens_iff.2 ⟨by omega, he⟩
        exact .node ho (ihd (by omega) inner) ih

/-- Fields have one unfolding. -/
lemma Unfolds.unique {other : EmbeddingForest} (h : t.Unfolds above fields forest)
    (h' : t.Unfolds above fields other) : other = forest := by
  induction h generalizing other with
  | nil =>
    cases h'
    rfl
  | leaf hn _ ih =>
    cases h' with
    | leaf _ hr => rw [ih hr]
    | node ho _ _ => exact absurd ho (hn _)
  | node ho _ _ ihb ihr =>
    cases h' with
    | leaf hn _ => exact absurd ho (hn _)
    | node ho' hb hr =>
      obtain rfl := ho.unique ho'
      rw [ihb hb, ihr hr]

/-! ## Flattening -/

/-- Fields are flattened one after the other. -/
lemma flatten_cons (t : TypeTable) (depth : Nat) (origin : Option String) (field : FieldDef Ty)
    (fields : List (FieldDef Ty)) :
    t.flatten depth origin (field :: fields) =
      t.flatten depth origin [field] ++ t.flatten depth origin fields := by
  rw [flatten, List.flatMap_cons, flatten, List.flatMap_singleton, flatten]

/-- A field that opens is replaced by the flattened fields of the struct that it embeds. -/
lemma Opens.flatten_singleton (h : t.Opens above field inner) (depth : Nat)
    (origin : Option String) :
    t.flatten (depth + 1) origin [field] =
      t.flatten depth (some (origin.getD field.name)) inner := by
  have he := (opens_iff.1 h).2
  rw [embedded?] at he
  rw [flatten, List.flatMap_singleton]
  simp only [he]

/-- A field that does not open stands for itself. -/
lemma flatten_singleton_of_not_opens {depth : Nat} (hn : ∀ inner, ¬ t.Opens above field inner)
    (hd : above + depth = 4) (origin : Option String) :
    t.flatten depth origin [field] = [field.info origin] := by
  rw [flatten, List.flatMap_singleton]
  cases depth with
  | zero => rfl
  | succ depth =>
    have he : t.embedded? field = none := by
      rw [Option.eq_none_iff_forall_ne_some]
      intro inner h
      exact hn inner (opens_iff.2 ⟨by omega, h⟩)
    rw [embedded?] at he
    simp only [he]
    rfl

/-- Flattening lists the leaves of the forest. An origin that is given from outside counts before those
    of the leaves, since it lies above them. -/
lemma Unfolds.flatten_eq {depth : Nat} (h : t.Unfolds above fields forest)
    (hd : above + depth = 4) (origin : Option String) :
    t.flatten depth origin fields =
      forest.leaves.map fun leaf => leaf.field.info (origin.or leaf.origin) := by
  induction h generalizing depth origin with
  | nil =>
    rw [flatten]
    rfl
  | leaf hn _ ih =>
    rw [flatten_cons, flatten_singleton_of_not_opens hn hd, ih hd, EmbeddingForest.leaves,
      List.map_cons, EmbeddingForest.Leaf.origin, List.head?_nil, Option.map_none, Option.or_none]
    rfl
  | @node above field inner fields below rest ho _ _ ihb ihr =>
    obtain ⟨depth, rfl⟩ : ∃ d, depth = d + 1 := ⟨3 - above, by have := ho.shallow; omega⟩
    rw [flatten_cons, ho.flatten_singleton, ihb (by omega), ihr hd, EmbeddingForest.leaves,
      List.map_append, List.map_map]
    congr 1
    apply List.map_congr_left
    intro leaf _
    cases origin with
    | none => rfl
    | some name => rfl

/-- The flat fields are the leaves of the unfolding. -/
lemma flatten_eq_leaves (h : t.Unfolds 0 fields forest) :
    t.flatten maxEmbedding none fields = forest.leaves.map EmbeddingForest.Leaf.info :=
  h.flatten_eq rfl none

/-- A list of fields has one embedding tree, whatever its structs embed. Flattening gives the leaves of
    this tree from left to right: each with its own name, visibility, tags, deprecation and type, and
    promoted from the outermost embedded field above it, if there is one. -/
theorem flatten_enumerates_leaves (t : TypeTable) (fields : List (FieldDef Ty)) :
    ∃ forest, (∀ other, t.Unfolds 0 fields other ↔ other = forest) ∧
      List.Forall₂ (fun (leaf : EmbeddingForest.Leaf) (info : FieldInfo) =>
          info.name = leaf.field.name ∧ info.exported = leaf.field.exported ∧
          info.tags = leaf.field.tags ∧ info.deprecated = leaf.field.deprecated ∧
          info.type = leaf.field.type ∧
          info.promotedFrom = leaf.above.head?.map (·.name) ∧
          (info.promotedFrom = none ↔ leaf.above = []))
        forest.leaves (t.flatten maxEmbedding none fields) := by
  have h : t.Unfolds 0 fields (t.embeddingForest 4 fields) := unfolds_embeddingForest rfl fields
  refine ⟨_, fun other => ⟨fun h' => h.unique h', fun e => e ▸ h⟩, ?_⟩
  rw [flatten_eq_leaves h, List.forall₂_map_right_iff, List.forall₂_same]
  rintro ⟨above, field⟩ _
  refine ⟨rfl, rfl, rfl, rfl, rfl, rfl, ?_⟩
  cases above with
  | nil => exact iff_of_true rfl rfl
  | cons outer inner => exact iff_of_false (Option.some_ne_none _) (List.cons_ne_nil _ _)

end TypeTable

end FieldAudit
