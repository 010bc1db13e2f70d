import Mathlib
import FieldAudit.Proofs.KeyedConverters
import FieldAudit.Proofs.MissingFields
import FieldAudit.Proofs.UsageNodes

/-!
# Promoted fields

The fields of embedded structs stand among the fields of the struct around them. Which fields these
are is said by the paths of embedded fields that lead to them. A promoted field keeps the first name
of its path only, so that a use of it through the embedded structs is seen where it goes through one
of them, and not where it goes through more.
-/

namespace FieldAudit

/-- A declared field as the audit sees it, with the embedded field through which it is promoted. -/
def FieldDef.info (field : FieldDef Ty) (origin : Option String) : FieldInfo :=
  { field.own with promotedFrom := origin }

namespace TypeTable

variable {t : TypeTable} {info : FieldInfo}

/-- The fields of the struct that a field embeds. -/
def embedded? (t : TypeTable) (field : FieldDef Ty) : Option (List (FieldDef Ty)) :=
  if field.embedded then t.embeddedFields? field.type else none

/-- The field is reached from a list of fields through embedded structs, by the names on the path. -/
inductive Embeds (t : TypeTable) : List (FieldDef Ty) → Path → FieldDef Ty → Prop where
  | here {fields : List (FieldDef Ty)} {field : FieldDef Ty} :
    field ∈ fields →
    Embeds t fields [] field
  | through {fields inner : List (FieldDef Ty)} {outer field : FieldDef Ty} {path : Path} :
    outer ∈ fields →
    t.embedded? outer = some inner →
    Embeds t inner path field →
    Embeds t fields (outer.name :: path) field

/-- One level of flattening: a field that embeds a struct stands for the fields of it, any other one
    for itself. -/
lemma mem_flatten_succ {depth : Nat} {origin : Option String} {fields : List (FieldDef Ty)} :
    info ∈ t.flatten (depth + 1) origin fields ↔
      ∃ field ∈ fields,
        (∃ inner, t.embedded? field = some inner ∧
          info ∈ t.flatten depth (some (origin.getD field.name)) inner) ∨
        (t.embedded? field = none ∧ info = field.info origin) := by
  rw [flatten, List.mem_flatMap]
  refine exists_congr fun field => and_congr_right fun _ => ?_
  unfold embedded?
  cases h : (if field.embedded = true then t.embeddedFields? field.type else none) with
  | none => simp [FieldDef.info, FieldDef.own]
  | some inner => simp

/-- The flat fields are those along embedded fields that embed no further struct or lie at the full
    depth. Their origin is the first embedded field on the way, unless one is given. -/
lemma mem_flatten {depth : Nat} {origin : Option String} {fields : List (FieldDef Ty)} :
    info ∈ t.flatten depth origin fields ↔
      ∃ path field, t.Embeds fields path field ∧ path.length ≤ depth ∧
        (path.length = depth ∨ t.embedded? field = none) ∧
        info = field.info (origin.or path.head?) := by
  induction depth generalizing origin fields with
  | zero =>
    rw [flatten, List.mem_flatMap]
    constructor
    · rintro ⟨field, hf, hi⟩
      refine ⟨[], field, .here hf, Nat.le_refl 0, .inl rfl, ?_⟩
      rw [List.head?_nil, Option.or_none]
      exact List.mem_singleton.1 hi
    · rintro ⟨path, field, he, hl, _, rfl⟩
      cases he with
      | here hf =>
        refine ⟨field, hf, ?_⟩
        rw [List.head?_nil, Option.or_none]
        exact List.mem_singleton_self _
      | through _ _ _ => cases hl
  | succ depth ih =>
    rw [mem_flatten_succ]
    constructor
    · rintro ⟨field, hf, ⟨inner, hi, hm⟩ | ⟨hn, rfl⟩⟩
      · obtain ⟨path, leaf, he, hl, hend, rfl⟩ := ih.1 hm
        refine ⟨field.name :: path, leaf, .through hf hi he, Nat.succ_le_succ hl, ?_, ?_⟩
        · exact hend.imp_left (congrArg Nat.succ)
        · cases origin <;> rfl
      · refine ⟨[], field, .here hf, Nat.zero_le _, .inr hn, ?_⟩
        rw [List.head?_nil, Option.or_none]
    · rintro ⟨path, field, he, hl, hend, rfl⟩
      cases he with
      | here hf =>
        refine ⟨field, hf, .inr ⟨hend.resolve_left (Nat.succ_ne_zero depth).symm, ?_⟩⟩
        rw [List.head?_nil, Option.or_none]
      | @through _ inner outer _ path ho hi he =>
        refine ⟨outer, ho, .inl ⟨inner, hi, ih.2 ⟨path, field, he, ?_, ?_, ?_⟩⟩⟩
        · exact Nat.le_of_succ_le_succ hl
        · exact hend.imp_left Nat.succ.inj
        · cases origin <;> rfl

/-- The type is a struct, in at most one container and behind at most one pointer, and going along the
    path of embedded fields from it leads to this field, which is not looked into any further. -/
def Promotes (t : TypeTable) (type : Ty) (path : Path) (info : FieldInfo) : Prop :=
  ∃ key fields field, (unwrap type).2 = .named key ∧ t.structFields? key = some fields ∧
    t.Embeds fields path field ∧ path.length ≤ maxEmbedding ∧
    (path.length = maxEmbedding ∨ t.embedded? field = none) ∧ info = field.info path.head?

/-- The candidate of a type is made of the key that it names, the shape around it and the flat fields
    of the struct. -/
lemma candidate?_eq_some {type : Ty} {c : Candidate} :
    t.candidate? type = some c ↔
      ∃ key fields, (unwrap type).2 = .named key ∧ t.structFields? key = some fields ∧
        c = { name := key.name, shape := (unwrap type).1
              fields := t.flatten maxEmbedding none fields, identity := t.identity key } := by
  unfold candidate?
  obtain ⟨shape, inner⟩ := unwrap type
  cases inner with
  | named key =>
    simp only [Option.map_eq_some_iff, Ty.named.injEq]
    constructor
    · rintro ⟨fields, hk, rfl⟩
      exact ⟨key, fields, rfl, hk, rfl⟩
    · rintro ⟨_, fields, rfl, hk, rfl⟩
      exact ⟨fields, hk, rfl⟩
  | _ => simp

/-- The fields of a candidate are those to which a path of embedded fields leads. -/
lemma mem_fields_iff {type : Ty} :
    (∃ c, t.candidate? type = some c ∧ info ∈ c.fields) ↔ ∃ path, t.Promotes type path info := by
  constructor
  · rintro ⟨c, hc, hi⟩
    obtain ⟨key, fields, hu, hk, rfl⟩ := candidate?_eq_some.1 hc
    obtain ⟨path, field, h⟩ := mem_flatten.1 hi
    exact ⟨path, key, fields, field, hu, hk, h⟩
  · rintro ⟨path, key, fields, field, hu, hk, h⟩
    exact ⟨_, candidate?_eq_some.2 ⟨key, fields, hu, hk, rfl⟩, mem_flatten.2 ⟨path, field, h⟩⟩

end TypeTable

section

variable {settings : Settings} {table : TypeTable} {side : Side} {usage : Usage}
  {counterpart : List FieldInfo} {field : FieldInfo}

/-- The path below a field is not the field itself. -/
lemma below_ne (name path : String) : name ++ "." ++ path ≠ name := by
  intro e
  have len := congrArg String.length e
  rw [String.length_append, String.length_append, show ".".length = 1 from rfl] at len
  omega

/-- A field is reported by its bare name exactly if it is neither exempt nor handled. -/
lemma name_mem_missingAt_iff :
    field.name ∈ missingAt settings table side usage counterpart field ↔
      field.isExempt settings counterpart = false ∧ field.isHandled settings usage side = false := by
  unfold missingAt
  cases field.isExempt settings counterpart with
  | true => simp
  | false =>
    cases field.isHandled settings usage side with
    | false => simp
    | true =>
      cases usage.partOf? field.name with
      | none => simp
      | some node =>
        cases table.singleFields? field.type with
        | none => simp
        | some inner => simp [below_ne]

/-- A promoted field is handled through the embedded structs exactly if the first one of them is
    consumed as a unit, or has a record of the field directly below it. -/
lemma FieldInfo.handledByEmbedding_eq {origin : String} (ho : field.promotedFrom = some origin) :
    field.handledByEmbedding usage =
      (usage.wholeAt [origin] || (usage.node? [origin, field.name]).isSome) := by
  rw [Usage.isSome_node?, Usage.hasNode_cons, ← Usage.hasField_eq_hasNode, handledByEmbedding, ho,
    Option.bind_some, Usage.wholeAt, Usage.node?_cons, Usage.field?_eq]
  cases usage.hasField origin <;> simp

/-- A field that is promoted along a path of embedded fields is reported by its bare name exactly if
    it is not exempt, it has no record of its own, the first struct on the path is neither consumed as
    a unit nor has a record of the field directly below it, and no getter and no similar name stands
    for it. Beyond these nodes the rest of the path does not matter. -/
theorem promoted_reported_iff {type : Ty} {first : String} {rest : Path} {info : FieldInfo}
    (h : table.Promotes type (first :: rest) info) :
    (∃ c, table.candidate? type = some c ∧ info ∈ c.fields) ∧
      (info.name ∈ missingFields settings table side usage [info] counterpart ↔
        info.isExempt settings counterpart = false ∧
        usage.node? [info.name] = none ∧
        usage.wholeAt [first] = false ∧
        usage.node? [first, info.name] = none ∧
        info.handledByGetter settings usage side = false ∧
        info.handledBySimilarity settings usage = false) := by
  refine ⟨TypeTable.mem_fields_iff.2 ⟨_, h⟩, ?_⟩
  have ho : info.promotedFrom = some first := by
    obtain ⟨_, _, _, _, _, _, _, _, rfl⟩ := h
    rfl
  have hn : usage.hasField info.name = (usage.node? [info.name]).isSome := by
    rw [Usage.isSome_node?, Usage.hasField_eq_hasNode]
  rw [missingFields_eq, List.flatMap_singleton, name_mem_missingAt_iff, FieldInfo.isHandled, hn,
    FieldInfo.handledByEmbedding_eq ho]
  simp only [Bool.or_eq_false_iff, Option.isSome_eq_false_iff, Option.isNone_iff_eq_none, and_assoc]

end

namespace Sample

/-- A struct `User` that embeds `Base`, which embeds `Inner`, which has an identity. -/
def layered : TypeTable :=
  { types :=
      [{ key := ⟨"", "User"⟩
         definition := .struct
          [{ name := "Base", exported := true, embedded := true, type := .named ⟨"", "Base"⟩ }] },
       { key := ⟨"", "Base"⟩
         definition := .struct
          [{ name := "Inner", exported := true, embedded := true, type := .named ⟨"", "Inner"⟩ }] },
       { key := ⟨"", "Inner"⟩, definition := .struct [text "ID"] }] }

/-- The identity of a user, promoted through both embedded structs. -/
def identity : FieldInfo := (text "ID").info (some "Base")

/-- The identity of the innermost struct is promoted through both embedded structs. -/
lemma layered_promotes : layered.Promotes (.named ⟨"", "User"⟩) ["Base", "Inner"] identity := by
  refine ⟨⟨"", "User"⟩, _, text "ID", rfl, rfl, ?_, by decide, .inr rfl, rfl⟩
  refine .through List.mem_cons_self rfl ?_
  exact .through List.mem_cons_self rfl (.here List.mem_cons_self)

end Sample

/-- A user whose `Base` is consumed as a unit is not reported for the identity. -/
theorem promoted_handled_by_first :
    Sample.layered.Promotes (.named ⟨"", "User"⟩) ["Base", "Inner"] Sample.identity ∧
      "ID" ∉ missingFields {} Sample.layered .source (.below ["Base"] .unit) [Sample.identity] [] := by
  refine ⟨Sample.layered_promotes, fun hm => ?_⟩
  obtain ⟨_, _, hw, _⟩ := (promoted_reported_iff Sample.layered_promotes).2.1 hm
  exact absurd hw (by decide +kernel)

/-- A user whose identity is read by its full path, and one whose `Base.Inner` is consumed as a unit,
    are reported for the identity all the same. -/
theorem promoted_deep_reported :
    Sample.layered.Promotes (.named ⟨"", "User"⟩) ["Base", "Inner"] Sample.identity ∧
      ((Usage.below ["Base", "Inner", "ID"] .unit).node? ["Base", "Inner", "ID"]).isSome = true ∧
      "ID" ∈ missingFields {} Sample.layered .source (.below ["Base", "Inner", "ID"] .unit)
        [Sample.identity] [] ∧
      (Usage.below ["Base", "Inner"] .unit).wholeAt ["Base", "Inner"] = true ∧
      "ID" ∈ missingFields {} Sample.layered .source (.below ["Base", "Inner"] .unit)
        [Sample.identity] [] := by
  refine ⟨Sample.layered_promotes, ?_, ?_, ?_, ?_⟩ <;> decide +kernel

end FieldAudit
