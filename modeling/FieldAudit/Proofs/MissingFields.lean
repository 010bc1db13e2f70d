import Mathlib
import FieldAudit.Converter.Policy
import FieldAudit.Proofs.UsageTree

/-!
# When a field is missing

The report on a list of fields, field by field: an exempt field gives nothing, an unhandled one its
name, and a field that is used in part what is missing below it. `Covered` says declaratively when a
field gives nothing, so that an empty report is one in which every field is covered.
-/

namespace FieldAudit

/-- No field of a flat usage is used in part. -/
lemma Usage.partOf?_flat (names : List String) (name : String) :
    (flat names).partOf? name = none := by
  rw [partOf?, Option.filter_eq_none_iff]
  intro node hn
  have hf := hasField_flat.1 (hasField_of_field? hn)
  rw [← sub_of_field? hn]
  simp [isWhole_sub_flat hf]

/-- A part of a usage is that of a field with records below it that is not consumed as a unit. -/
lemma Usage.partOf?_eq_some {usage node : Usage} {name : String} :
    usage.partOf? name = some node ↔
      usage.hasField name = true ∧ usage.sub name = node ∧
        node.isWhole = false ∧ ∃ next, node.hasField next = true := by
  have ne (node : Usage) :
      (!node.fieldNames.isEmpty) = true ↔ ∃ next, node.hasField next = true := by
    simp only [← mem_fieldNames, OrderedSet.isEmpty, OrderedSet.mem_def, Bool.not_eq_true',
      List.isEmpty_eq_false_iff_exists_mem]
  rw [partOf?, Option.filter_eq_some_iff, Bool.and_eq_true, ne, Bool.not_eq_true', field?_eq]
  cases usage.hasField name <;> simp

namespace FieldInfo

/-- What handles a promoted field is a record of the embedded struct. -/
lemma hasField_of_handledByEmbedding {field : FieldInfo} {usage : Usage}
    (h : field.handledByEmbedding usage = true) :
    ∃ origin, field.promotedFrom = some origin ∧ usage.hasField origin = true := by
  unfold handledByEmbedding at h
  cases ho : field.promotedFrom with
  | none =>
    rw [ho] at h
    cases h
  | some origin =>
    refine ⟨origin, rfl, ?_⟩
    by_contra hn
    simp [ho, Usage.field?_eq, hn] at h

/-- Without regard to similar names, a field is handled by a record of its own, by one of the
    embedded struct, or by a call of its getter on the source. -/
lemma handled_cases {settings : Settings} {field : FieldInfo} {usage : Usage} {side : Side}
    (off : ¬ settings.minSimilarity > 0) (h : field.isHandled settings usage side = true) :
    usage.hasField field.name = true ∨
      (∃ origin, field.promotedFrom = some origin ∧ usage.hasField origin = true) ∨
      (side = .source ∧ "Get" ++ field.name ∈ usage.methods) := by
  simp only [isHandled, Bool.or_eq_true] at h
  rcases h with ((h | h) | h) | h
  · exact .inl h
  · exact .inr (.inl (hasField_of_handledByEmbedding h))
  · simp only [handledByGetter, Bool.and_eq_true, beq_iff_eq, decide_eq_true_eq] at h
    exact .inr (.inr ⟨h.1.1, h.2⟩)
  · simp [handledBySimilarity, off] at h

/-- Whether a field is handled depends on the usages of the direct fields and the methods called. -/
lemma isHandled_congr {settings : Settings} {field : FieldInfo} {side : Side} {u v : Usage}
    (hf : ∀ name, u.field? name = v.field? name) (hm : u.methods = v.methods) :
    field.isHandled settings u side = field.isHandled settings v side := by
  have hh (name : String) : u.hasField name = v.hasField name := by
    rw [← Usage.isSome_field?, hf name, Usage.isSome_field?]
  have hn : u.fieldNames = v.fieldNames := by
    apply OrderedSet.ext_mem
    intro name
    rw [Usage.mem_fieldNames, Usage.mem_fieldNames, hh]
  have he : field.handledByEmbedding u = field.handledByEmbedding v := by
    rw [handledByEmbedding, handledByEmbedding, show u.field? = v.field? from funext hf]
  have hg : field.handledByGetter settings u side = field.handledByGetter settings v side := by
    rw [handledByGetter, handledByGetter, hm]
  have hs : field.handledBySimilarity settings u = field.handledBySimilarity settings v := by
    rw [handledBySimilarity, handledBySimilarity, hn]
  rw [isHandled, isHandled, hh, he, hg, hs]

/-- A field that is not handled has no record of its own. -/
lemma hasField_of_not_handled {settings : Settings} {field : FieldInfo} {usage : Usage} {side : Side}
    (h : field.isHandled settings usage side = false) : usage.hasField field.name = false := by
  simp only [isHandled, Bool.or_eq_false_iff] at h
  exact h.1.1.1

/-- A field that is not handled has no record, so that there is no part of it to look into. -/
lemma partOf?_of_not_handled {settings : Settings} {field : FieldInfo} {usage : Usage} {side : Side}
    (h : field.isHandled settings usage side = false) : usage.partOf? field.name = none := by
  simp [Usage.partOf?, Usage.field?_eq, hasField_of_not_handled h]

end FieldInfo

/-- What is reported for one field. -/
def missingAt (settings : Settings) (table : TypeTable) (side : Side) (usage : Usage)
    (counterpart : List FieldInfo) (field : FieldInfo) : List String :=
  if field.isExempt settings counterpart then []
  else if !field.isHandled settings usage side then [field.name]
  else match usage.partOf? field.name with
    | none => []
    | some node => match table.singleFields? field.type with
      | none => []
      | some inner =>
        (missingFields settings table side node inner
          (table.fieldsBelow counterpart field.name)).map fun path => field.name ++ "." ++ path

section

variable {settings : Settings} {table : TypeTable} {side : Side} {usage : Usage}
  {fields counterpart : List FieldInfo} {field : FieldInfo}

/-- The report on a list of fields is made field by field. -/
lemma missingFields_eq :
    missingFields settings table side usage fields counterpart =
      fields.flatMap (missingAt settings table side usage counterpart) := by
  rw [missingFields]
  congr 1
  funext field
  unfold missingAt
  split
  · rfl
  · split
    · rfl
    · cases table.singleFields? field.type with
      | none => split <;> rename_i hp <;> simp [hp]
      | some inner => split <;> rename_i hp <;> simp [hp]

/-- The report depends on the usages of the direct fields and the methods called, and on nothing else
    that is recorded at the value itself. -/
lemma missingFields_congr {u v : Usage} (hf : ∀ name, u.field? name = v.field? name)
    (hm : u.methods = v.methods) :
    missingFields settings table side u fields counterpart =
      missingFields settings table side v fields counterpart := by
  rw [missingFields_eq, missingFields_eq]
  congr 1
  funext field
  rw [missingAt, missingAt, FieldInfo.isHandled_congr hf hm, Usage.partOf?, Usage.partOf?, hf]

/-- A field that is neither exempt nor handled is reported by its name. -/
lemma missingAt_of_not_handled (he : field.isExempt settings counterpart = false)
    (hh : field.isHandled settings usage side = false) :
    missingAt settings table side usage counterpart field = [field.name] := by
  simp [missingAt, he, hh]

/-- A field that is neither exempt nor handled is in the report. -/
lemma mem_missingFields_of_not_handled (hf : field ∈ fields)
    (he : field.isExempt settings counterpart = false)
    (hh : field.isHandled settings usage side = false) :
    field.name ∈ missingFields settings table side usage fields counterpart := by
  rw [missingFields_eq, List.mem_flatMap]
  refine ⟨field, hf, ?_⟩
  rw [missingAt_of_not_handled he hh]
  exact List.mem_singleton_self _

/-- Where no field is used in part, the report is the names of the fields that are neither exempt
    nor handled, in the order of declaration. -/
lemma missingFields_of_flat (flat : ∀ name, usage.partOf? name = none) :
    missingFields settings table side usage fields counterpart =
      (fields.filter fun field =>
        !field.isExempt settings counterpart && !field.isHandled settings usage side).map
          (·.name) := by
  rw [missingFields_eq]
  induction fields with
  | nil => rfl
  | cons field fields ih =>
    rw [List.flatMap_cons, ih, List.filter_cons]
    unfold missingAt
    cases field.isExempt settings counterpart with
    | true => simp
    | false =>
      cases field.isHandled settings usage side with
      | true => simp [flat]
      | false => simp

end

/-- A field needs no report: it is exempt, or it is handled and, where it is a struct that is used
    in part, all of its fields need no report either. -/
inductive Covered (settings : Settings) (table : TypeTable) (side : Side) :
    Usage → List FieldInfo → FieldInfo → Prop where
  | exempt {usage : Usage} {counterpart : List FieldInfo} {field : FieldInfo} :
    field.isExempt settings counterpart = true →
    Covered settings table side usage counterpart field
  | handled {usage : Usage} {counterpart : List FieldInfo} {field : FieldInfo} :
    field.isHandled settings usage side = true →
    (∀ node inner, usage.partOf? field.name = some node →
      table.singleFields? field.type = some inner →
      ∀ g ∈ inner, Covered settings table side node (table.fieldsBelow counterpart field.name) g) →
    Covered settings table side usage counterpart field

section

variable {settings : Settings} {table : TypeTable} {side : Side} {usage : Usage}
  {fields counterpart : List FieldInfo} {field : FieldInfo}

/-- A covered field gives no report, if the reports below it are empty where its fields are
    covered. -/
lemma missingAt_eq_nil_iff
    (below : ∀ node, usage.partOf? field.name = some node → ∀ inner,
      missingFields settings table side node inner (table.fieldsBelow counterpart field.name) = [] ↔
        ∀ g ∈ inner,
          Covered settings table side node (table.fieldsBelow counterpart field.name) g) :
    missingAt settings table side usage counterpart field = [] ↔
      Covered settings table side usage counterpart field := by
  unfold missingAt
  split
  · rename_i he
    exact ⟨fun _ => .exempt he, fun _ => rfl⟩
  · rename_i he
    split
    · rename_i hh
      refine ⟨fun h => absurd h (List.cons_ne_nil _ _), fun h => ?_⟩
      cases h with
      | exempt h => exact absurd h he
      | handled h _ => simp [h] at hh
    · rename_i hh
      replace hh : field.isHandled settings usage side = true := by simpa using hh
      split
      · rename_i hp
        refine ⟨fun _ => .handled hh ?_, fun _ => rfl⟩
        intro node inner hn
        rw [hp] at hn
        cases hn
      · rename_i node hp
        split
        · rename_i hs
          refine ⟨fun _ => .handled hh ?_, fun _ => rfl⟩
          intro node inner _ hi
          rw [hs] at hi
          cases hi
        · rename_i inner hs
          rw [List.map_eq_nil_iff, below node hp inner]
          constructor
          · intro h
            refine .handled hh fun node' inner' hn hi => ?_
            obtain rfl := Option.some.inj (hp.symm.trans hn)
            obtain rfl := Option.some.inj (hs.symm.trans hi)
            exact h
          · intro h
            cases h with
            | exempt h => exact absurd h he
            | handled _ h => exact h node inner hp hs

/-- The report is empty exactly if every field is covered. -/
lemma missingFields_eq_nil_iff :
    missingFields settings table side usage fields counterpart = [] ↔
      ∀ field ∈ fields, Covered settings table side usage counterpart field := by
  -- going down to a part of the usage makes its longest path shorter
  induction hd : usage.depth using Nat.strong_induction_on generalizing usage fields counterpart with
  | _ d ih =>
    rw [missingFields_eq, List.flatMap_eq_nil_iff]
    refine forall₂_congr fun field _ => missingAt_eq_nil_iff fun node hp inner => ?_
    exact ih node.depth (hd ▸ Usage.depth_lt_of_partOf? hp) rfl

end

namespace Sample

/-- A struct `Employee` with an identity and a pointer to another employee. -/
def staff : TypeTable :=
  { types := [{ key := ⟨"", "Employee"⟩
                definition := .struct
                  [{ name := "ID", exported := true, type := .basic "string" },
                   { name := "Boss", exported := true, type := .pointer (.named ⟨"", "Employee"⟩) }] }] }

/-- The fields of an employee. -/
def employee : List FieldInfo := (staff.singleFields? (.named ⟨"", "Employee"⟩)).getD []

end Sample

end FieldAudit
