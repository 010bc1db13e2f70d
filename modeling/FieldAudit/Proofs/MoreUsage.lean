import Mathlib
import FieldAudit.Proofs.MissingFields
import FieldAudit.Proofs.UsageNodes

/-!
# More usage

A field that is handled stays handled when more is recorded, but a field that was consumed as a unit,
or not looked into for want of records below it, may be opened by them: its own fields are then
checked. Where no node is opened in this way, more usage makes nothing missing.
-/

namespace FieldAudit

namespace Usage

/-- Merging `v` into `u` opens no node below the value itself: where the result is used in part, `u`
    has a field already. -/
def OpensNothing (u v : Usage) : Prop :=
  ∀ path, path ≠ [] → (u.merge v).PartialAt path → u.BranchesAt path

/-- A node is opened only where `v` has a field below it. -/
lemma opensNothing_of_nodes {u v : Usage}
    (h : ∀ first path next, v.hasNode (first :: path ++ [next]) = true →
      u.BranchesAt (first :: path)) : u.OpensNothing v := by
  intro path hne hp
  obtain ⟨next, hn⟩ := branchesAt_iff.1 hp.branchesAt
  rw [hasNode_merge, Bool.or_eq_true] at hn
  rcases hn with hn | hn
  · exact branchesAt_iff.2 ⟨next, hn⟩
  · obtain ⟨first, path, rfl⟩ := List.exists_cons_of_ne_nil hne
    exact h first path next hn

/-- Going down to a field, no node is opened either. -/
lemma OpensNothing.sub {u v : Usage} (h : u.OpensNothing v) {name : String}
    (hf : (u.merge v).hasField name = true) : (u.sub name).OpensNothing (v.sub name) := by
  intro path _ hp
  rw [← sub_merge] at hp
  have hb := h (name :: path) (List.cons_ne_nil name path) (partialAt_cons.2 ⟨hf, hp⟩)
  exact (branchesAt_cons.1 hb).2

/-- A part of the merge is the merge of the two parts, and there is one in `u`. -/
lemma OpensNothing.partOf? {u v node : Usage} {name : String} (h : u.OpensNothing v)
    (hp : (u.merge v).partOf? name = some node) :
    node = (u.sub name).merge (v.sub name) ∧ u.partOf? name = some (u.sub name) := by
  obtain ⟨hf, rfl, hw, hn⟩ := partOf?_eq_some.1 hp
  have hb : u.BranchesAt [name] :=
    h [name] (List.cons_ne_nil name []) (partialAt_cons.2 ⟨hf, _, rfl, hw, hn⟩)
  obtain ⟨hu, node, e, hc⟩ := branchesAt_cons.1 hb
  cases e
  rw [sub_merge, isWhole_merge, Bool.or_eq_false_iff] at hw
  exact ⟨sub_merge u v name, partOf?_eq_some.2 ⟨hu, rfl, hw.1, hc⟩⟩

/-- The direct fields of these names are consumed as units, and these methods are called on the
    value. -/
def shallow (methods names : List String) : Usage :=
  ofFields false methods (names.map fun name => (name, unit))

/-- Nothing is recorded below the direct fields of a shallow usage. -/
lemma hasNode_shallow (methods names : List String) (first second : String) (path : Path) :
    (shallow methods names).hasNode (first :: second :: path) = false := by
  rw [shallow, ofFields, hasNode_mergeAll, List.any_eq_false]
  intro u hu
  rcases List.mem_append.1 hu with hu | hu
  · rcases List.mem_cons.1 hu with rfl | hu
    · simp
    · obtain ⟨method, _, rfl⟩ := List.mem_map.1 hu
      simp
  · obtain ⟨_, hn, rfl⟩ := List.mem_map.1 hu
    obtain ⟨name, _, rfl⟩ := List.mem_map.1 hn
    simp [hasNode_below_cons]

/-- Whole fields and calls open no field in parts. -/
lemma opensNothing_shallow (u : Usage) (methods names : List String) :
    u.OpensNothing (shallow methods names) := by
  apply opensNothing_of_nodes
  intro first path next hn
  cases path <;> simp [hasNode_shallow] at hn

end Usage

section

variable {settings : Settings} {table : TypeTable} {side : Side} {u v : Usage}
  {fields counterpart : List FieldInfo} {field : FieldInfo}

namespace FieldInfo

/-- More usage leaves a field handled that its embedding handles. -/
lemma handledByEmbedding_merge (h : field.handledByEmbedding u = true) (v : Usage) :
    field.handledByEmbedding (u.merge v) = true := by
  unfold handledByEmbedding at h ⊢
  cases ho : field.promotedFrom with
  | none => simp [ho] at h
  | some origin =>
    rw [ho, Option.bind_some, Usage.field?_eq] at h
    rw [Option.bind_some, Usage.field?_eq, Usage.hasField_merge, Usage.sub_merge]
    cases hu : u.hasField origin with
    | false => simp [hu] at h
    | true =>
      rw [hu] at h
      simp only [if_true, Option.any_some, Bool.or_eq_true] at h
      simp only [Bool.true_or, if_true, Option.any_some, Usage.isWhole_merge, Usage.hasField_merge,
        Bool.or_eq_true]
      exact h.imp .inl .inl

/-- More usage leaves a field handled that a similar name handles. -/
lemma handledBySimilarity_merge (h : field.handledBySimilarity settings u = true) (v : Usage) :
    field.handledBySimilarity settings (u.merge v) = true := by
  obtain ⟨on, h⟩ := Bool.and_eq_true_iff.1 h
  obtain ⟨used, hu, hs⟩ := List.any_eq_true.1 h
  refine Bool.and_eq_true_iff.2 ⟨on, List.any_eq_true.2 ⟨used, ?_, hs⟩⟩
  have hu' : used ∈ u.fieldNames := hu
  rw [Usage.mem_fieldNames] at hu'
  have hm : used ∈ (u.merge v).fieldNames := by
    rw [Usage.mem_fieldNames, Usage.hasField_merge, hu', Bool.true_or]
  exact hm

/-- A field that is handled, in any of the four ways, stays so when more is recorded. -/
lemma isHandled_merge (h : field.isHandled settings u side = true) (v : Usage) :
    field.isHandled settings (u.merge v) side = true := by
  simp only [isHandled, Bool.or_eq_true] at h ⊢
  rcases h with ((h | h) | h) | h
  · exact .inl (.inl (.inl (by rw [Usage.hasField_merge, h, Bool.true_or])))
  · exact .inl (.inl (.inr (handledByEmbedding_merge h v)))
  · simp only [handledByGetter, Bool.and_eq_true, decide_eq_true_eq] at h ⊢
    exact .inl (.inr ⟨h.1, Usage.mem_methods_merge.2 (.inl h.2)⟩)
  · exact .inr (handledBySimilarity_merge h v)

end FieldInfo

/-- What is reported for one field is reported with less usage, if this holds of what is reported
    below it. -/
lemma missingAt_merge_sublist (h : u.OpensNothing v)
    (below : u.hasField field.name = true → ∀ inner,
      (missingFields settings table side ((u.sub field.name).merge (v.sub field.name)) inner
        (table.fieldsBelow counterpart field.name)).Sublist
      (missingFields settings table side (u.sub field.name) inner
        (table.fieldsBelow counterpart field.name))) :
    (missingAt settings table side (u.merge v) counterpart field).Sublist
      (missingAt settings table side u counterpart field) := by
  cases he : field.isExempt settings counterpart with
  | true => simp [missingAt, he]
  | false =>
    cases hp : (u.merge v).partOf? field.name with
    | none =>
      cases hm : field.isHandled settings (u.merge v) side with
      | true => simp [missingAt, he, hm, hp]
      | false =>
        have hu : field.isHandled settings u side = false := by
          rw [Bool.eq_false_iff] at hm ⊢
          exact fun hu => hm (FieldInfo.isHandled_merge hu v)
        simp [missingAt, he, hm, hu]
    | some node =>
      -- the part is there in both, so that the field is handled in both and looked into in both
      obtain ⟨rfl, hu⟩ := h.partOf? hp
      have hf : u.hasField field.name = true := (Usage.partOf?_eq_some.1 hu).1
      have hh : field.isHandled settings u side = true := by simp [FieldInfo.isHandled, hf]
      have hm := FieldInfo.isHandled_merge hh v
      cases hi : table.singleFields? field.type with
      | none => simp [missingAt, he, hm, hp, hi]
      | some inner => simpa [missingAt, he, hh, hm, hp, hu, hi] using (below hf inner).map _

/-- More usage that opens no field in parts adds no missing field. -/
lemma missingFields_merge_sublist (h : u.OpensNothing v) :
    (missingFields settings table side (u.merge v) fields counterpart).Sublist
      (missingFields settings table side u fields counterpart) := by
  -- going down to a field of the smaller usage makes its longest path shorter
  induction hd : u.depth using Nat.strong_induction_on generalizing u v fields counterpart with
  | _ d ih =>
    rw [missingFields_eq, missingFields_eq]
    apply List.Sublist.flatMap_right
    intro field _
    apply missingAt_merge_sublist h
    intro hf inner
    have hm : (u.merge v).hasField field.name = true := by rw [Usage.hasField_merge, hf, Bool.true_or]
    exact ih (u.sub field.name).depth (hd ▸ Usage.depth_sub_lt hf) (h.sub hm) rfl

end

/-- More usage, of any kind and under any settings, makes nothing missing as long as it opens no node:
    what is then missing was missing before, in the same order. Consuming direct fields as units and
    calling methods on the value opens none. -/
theorem more_usage_never_adds_misses (settings : Settings) (table : TypeTable) (side : Side)
    (u : Usage) (fields counterpart : List FieldInfo) :
    (∀ v : Usage, (∀ path, path ≠ [] → (u.merge v).PartialAt path → u.BranchesAt path) →
      (missingFields settings table side (u.merge v) fields counterpart).Sublist
        (missingFields settings table side u fields counterpart)) ∧
    ∀ methods names : List String,
      (missingFields settings table side
        (u.merge (.ofFields false methods (names.map fun name => (name, .unit)))) fields
        counterpart).Sublist
        (missingFields settings table side u fields counterpart) := by
  constructor
  · intro v h
    exact missingFields_merge_sublist h
  · intro methods names
    exact missingFields_merge_sublist (Usage.opensNothing_shallow u methods names)

/-- With the boss of the boss looked into, reading the identity of the boss opens nothing, and one
    path less is missing. -/
theorem more_usage_staff :
    let u := Usage.below ["Boss", "Boss", "ID"] .unit
    let v := Usage.below ["Boss", "ID"] .unit
    (∀ path, path ≠ [] → (u.merge v).PartialAt path → u.BranchesAt path) ∧
      missingFields ({} : Settings) Sample.staff .source u Sample.employee [] =
        ["ID", "Boss.ID", "Boss.Boss.Boss"] ∧
      missingFields {} Sample.staff .source (u.merge v) Sample.employee [] =
        ["ID", "Boss.Boss.Boss"] ∧
      (missingFields {} Sample.staff .source (u.merge v) Sample.employee []).Sublist
        (missingFields {} Sample.staff .source u Sample.employee []) := by
  intro u v
  have h : u.OpensNothing v := by
    apply Usage.opensNothing_of_nodes
    intro first path next hn
    cases path with
    | nil =>
      rw [List.singleton_append, Usage.hasNode_below_cons, Bool.and_eq_true, decide_eq_true_eq] at hn
      rw [hn.1]
      exact Usage.branchesAt_iff.2 ⟨"Boss", by decide +kernel⟩
    | cons second path =>
      rw [List.cons_append, List.cons_append, Usage.hasNode_below_cons, Usage.hasNode_below_cons,
        Usage.below_nil] at hn
      cases path <;> simp at hn
  exact ⟨h, by decide +kernel, by decide +kernel, (more_usage_never_adds_misses _ _ _ _ _ _).1 v h⟩

end FieldAudit
