import Mathlib
import FieldAudit.Proofs.Promotion

/-!
# Reported paths are gaps

A report names chains of declared fields, each one a field of the struct that the one before it is.
The chains in it are exactly the gaps of the usage: all fields above the last one are used in part,
and nothing stands for the last one. They come in the order of declaration at every level, and no
chain in a report goes on another one, since a field with something missing below it has a record.
-/

namespace FieldAudit

/-- The path of a chain of fields as it is written in a report. -/
def dotted (chain : List FieldInfo) : String := ".".intercalate (chain.map (·.name))

namespace TypeTable

/-- The fields on the other side that stand against those below a path. -/
def levelAt (table : TypeTable) (counterpart : List FieldInfo) (path : Path) : List FieldInfo :=
  path.foldl table.fieldsBelow counterpart

/-- Each field of the chain is a field of the single struct that the one before it is, and the first
    one is a field of the list. -/
inductive Declares (table : TypeTable) : List FieldInfo → List FieldInfo → Prop where
  | field {fields : List FieldInfo} {field : FieldInfo} :
    field ∈ fields →
    Declares table fields [field]
  | inside {fields inner : List FieldInfo} {field : FieldInfo} {chain : List FieldInfo} :
    field ∈ fields →
    table.singleFields? field.type = some inner →
    Declares table inner chain →
    Declares table fields (field :: chain)

/-- The declared chains of at most this length in the order of declaration: a field, what is declared
    below it, and then the next field. -/
def chains (table : TypeTable) : Nat → List FieldInfo → List (List FieldInfo)
  | 0, _ => []
  | length + 1, fields => fields.flatMap fun field =>
    [field] :: (table.chains length ((table.singleFields? field.type).getD [])).map (field :: ·)

variable {table : TypeTable}

/-- Where there are no fields, there are no chains. -/
lemma chains_nil (table : TypeTable) (length : Nat) : table.chains length [] = [] := by
  cases length <;> rfl

/-- A declared chain has at least one field. -/
lemma Declares.ne_nil {fields chain : List FieldInfo} (h : table.Declares fields chain) :
    chain ≠ [] := by
  cases h <;> exact List.cons_ne_nil _ _

/-- Without fields no chain is declared. -/
lemma not_declares_nil (chain : List FieldInfo) : ¬ table.Declares [] chain := by
  intro h
  cases h with
  | field hf => cases hf
  | inside hf _ _ => cases hf

/-- The listed chains are the declared ones up to the given length. -/
lemma mem_chains {length : Nat} {fields chain : List FieldInfo} :
    chain ∈ table.chains length fields ↔ table.Declares fields chain ∧ chain.length ≤ length := by
  induction length generalizing fields chain with
  | zero =>
    refine ⟨nofun, fun ⟨h, hl⟩ => ?_⟩
    exact absurd (List.length_eq_zero_iff.1 (Nat.le_zero.1 hl)) h.ne_nil
  | succ length ih =>
    simp only [chains, List.mem_flatMap, List.mem_cons, List.mem_map, ih]
    constructor
    · rintro ⟨field, hf, rfl | ⟨rest, ⟨hr, hl⟩, rfl⟩⟩
      · exact ⟨.field hf, by simp⟩
      · cases hi : table.singleFields? field.type with
        | none =>
          rw [hi] at hr
          exact absurd hr (not_declares_nil rest)
        | some inner =>
          rw [hi] at hr
          exact ⟨.inside hf hi hr, Nat.succ_le_succ hl⟩
    · rintro ⟨h, hl⟩
      cases h with
      | @field _ field hf => exact ⟨field, hf, .inl rfl⟩
      | @inside _ inner field rest hf hi hr =>
        refine ⟨field, hf, .inr ⟨rest, ⟨?_, Nat.le_of_succ_le_succ hl⟩, rfl⟩⟩
        rw [hi]
        exact hr

end TypeTable

section

variable {settings : Settings} {table : TypeTable} {side : Side} {usage : Usage}
  {fields counterpart chain : List FieldInfo} {field : FieldInfo}

/-- Whether the fields of a chain are used in part down to the last one, which is not handled, and
    none of them is exempt. -/
def isGap (settings : Settings) (table : TypeTable) (side : Side) :
    Usage → List FieldInfo → List FieldInfo → Bool
  | _, _, [] => false
  | usage, counterpart, [field] =>
    !field.isExempt settings counterpart && !field.isHandled settings usage side
  | usage, counterpart, field :: next :: rest =>
    !field.isExempt settings counterpart && (usage.partOf? field.name).any fun node =>
      isGap settings table side node (table.fieldsBelow counterpart field.name) (next :: rest)

/-- A longer chain is a gap if its first field is used in parts and the rest is a gap in the part. -/
lemma isGap_cons (hc : chain ≠ []) :
    isGap settings table side usage counterpart (field :: chain) =
      (!field.isExempt settings counterpart && (usage.partOf? field.name).any fun node =>
        isGap settings table side node (table.fieldsBelow counterpart field.name) chain) := by
  obtain ⟨next, rest, rfl⟩ := List.exists_cons_of_ne_nil hc
  rw [isGap]

/-- A longer chain is written as its first field, a dot and the rest. -/
lemma dotted_cons (hc : chain ≠ []) : dotted (field :: chain) = field.name ++ "." ++ dotted chain := by
  obtain ⟨next, rest, rfl⟩ := List.exists_cons_of_ne_nil hc
  rw [dotted, List.map_cons, List.map_cons, String.intercalate_cons_cons]
  rfl

/-- The report on one field is made of the gaps that start with it. -/
lemma missingAt_eq_gaps {length : Nat}
    (below : ∀ node, usage.partOf? field.name = some node → ∀ inner,
      missingFields settings table side node inner (table.fieldsBelow counterpart field.name) =
        ((table.chains length inner).filter
          (isGap settings table side node (table.fieldsBelow counterpart field.name))).map dotted) :
    missingAt settings table side usage counterpart field =
      (([field] :: (table.chains length ((table.singleFields? field.type).getD [])).map
        (field :: ·)).filter (isGap settings table side usage counterpart)).map dotted := by
  have one : isGap settings table side usage counterpart [field] =
      (!field.isExempt settings counterpart && !field.isHandled settings usage side) := rfl
  have more : ∀ c ∈ table.chains length ((table.singleFields? field.type).getD []),
      isGap settings table side usage counterpart (field :: c) =
        (!field.isExempt settings counterpart && (usage.partOf? field.name).any fun node =>
          isGap settings table side node (table.fieldsBelow counterpart field.name) c) :=
    fun c hc => isGap_cons (TypeTable.mem_chains.1 hc).1.ne_nil
  rw [List.filter_cons, one, List.filter_map]
  simp only [Function.comp_def]
  rw [List.filter_congr more]
  unfold missingAt
  cases field.isExempt settings counterpart with
  | true => simp
  | false =>
    cases hh : field.isHandled settings usage side with
    | false => simp [FieldInfo.partOf?_of_not_handled hh, dotted]
    | true =>
      cases hp : usage.partOf? field.name with
      | none => simp
      | some node =>
        cases table.singleFields? field.type with
        | none => simp [TypeTable.chains_nil]
        | some inner =>
          simp only [below node hp inner, List.map_map, Bool.not_true, Bool.not_false, Bool.and_false,
            Bool.true_and, Bool.false_eq_true, if_false, Option.any_some, Option.getD_some]
          apply List.map_congr_left
          intro c hc
          have hd := (TypeTable.mem_chains.1 (List.mem_filter.1 hc).1).1
          exact (dotted_cons hd.ne_nil).symm

/-- A report is made of the gaps among the declared chains, in the order of declaration. -/
lemma missingFields_eq_gaps {length : Nat} (hl : usage.depth < length) :
    missingFields settings table side usage fields counterpart =
      ((table.chains length fields).filter (isGap settings table side usage counterpart)).map
        dotted := by
  induction length generalizing usage fields counterpart with
  | zero => cases hl
  | succ length ih =>
    rw [missingFields_eq, TypeTable.chains, List.filter_flatMap, List.map_flatMap]
    congr 1
    funext field
    apply missingAt_eq_gaps
    intro node hp inner
    exact ih (Nat.lt_of_lt_of_le (Usage.depth_lt_of_partOf? hp) (Nat.le_of_lt_succ hl))

/-- The fields of a chain are used in part down to the last one, for which nothing stands. -/
structure Gap (settings : Settings) (table : TypeTable) (side : Side) (usage : Usage)
    (counterpart chain : List FieldInfo) : Prop where
  /-- No field is exempt against the fields that stand against its level on the other side. -/
  notExempt : ∀ above field rest, chain = above ++ field :: rest →
    field.isExempt settings (table.levelAt counterpart (above.map (·.name))) = false
  /-- Every field above the last one is used in part. -/
  opened : ∀ path, path ≠ [] → path <+: chain.map (·.name) → path ≠ chain.map (·.name) →
    usage.PartialAt path
  /-- There is no node at the last one. -/
  absent : usage.node? (chain.map (·.name)) = none
  /-- Nothing at the node above it stands for the last one. -/
  unhandled : ∀ above field, chain = above ++ [field] → ∀ node,
    usage.node? (above.map (·.name)) = some node → field.isHandled settings node side = false

/-- A single field is a gap exactly if it is neither exempt nor handled. -/
lemma gap_singleton :
    Gap settings table side usage counterpart [field] ↔
      field.isExempt settings counterpart = false ∧ field.isHandled settings usage side = false := by
  constructor
  · intro h
    exact ⟨h.notExempt [] field [] rfl, h.unhandled [] field rfl usage rfl⟩
  · rintro ⟨he, hh⟩
    refine ⟨fun above f rest e => ?_, fun path hne hp hne' => ?_, ?_, fun above f e node hn => ?_⟩
    · obtain ⟨rfl, rfl, rfl⟩ : above = [] ∧ f = field ∧ rest = [] := by
        cases above <;> simp_all
      exact he
    · rcases List.prefix_cons_iff.1 hp with rfl | ⟨q, rfl, hq⟩
      · exact absurd rfl hne
      · rw [List.prefix_nil.1 hq] at hne'
        exact absurd rfl hne'
    · have hf := FieldInfo.hasField_of_not_handled hh
      simp [Usage.node?_cons, Usage.field?_eq, hf]
    · obtain ⟨rfl, rfl⟩ : above = [] ∧ f = field := by
        cases above <;> simp_all
      cases hn
      exact hh

/-- A longer chain is a gap exactly if its first field is not exempt and used in parts, and the rest is
    a gap in the part. -/
lemma gap_cons (hc : chain ≠ []) :
    Gap settings table side usage counterpart (field :: chain) ↔
      field.isExempt settings counterpart = false ∧ ∃ node, usage.partOf? field.name = some node ∧
        Gap settings table side node (table.fieldsBelow counterpart field.name) chain := by
  constructor
  · intro h
    have hp : usage.PartialAt [field.name] := by
      apply h.opened [field.name] (List.cons_ne_nil _ _) ⟨_, rfl⟩
      simpa using Ne.symm hc
    obtain ⟨hf, node, e, hw, hn⟩ := Usage.partialAt_cons.1 hp
    cases e
    refine ⟨h.notExempt [] field chain rfl, _, Usage.partOf?_eq_some.2 ⟨hf, rfl, hw, hn⟩, ?_⟩
    refine ⟨fun above f rest e => ?_, fun path hne hp hne' => ?_, ?_, fun above f e node hn => ?_⟩
    · exact h.notExempt (field :: above) f rest (by rw [e]; rfl)
    · have ho := h.opened (field.name :: path) (List.cons_ne_nil _ _)
        (List.cons_prefix_cons.2 ⟨rfl, hp⟩) (fun e => hne' (List.cons.inj e).2)
      exact (Usage.partialAt_cons.1 ho).2
    · rw [Option.eq_none_iff_forall_ne_some]
      intro node hn
      have ha := h.absent
      rw [List.map_cons, Usage.node?_cons_eq_some.2 ⟨hf, hn⟩] at ha
      cases ha
    · exact h.unhandled (field :: above) f (by rw [e]; rfl) node
        (Usage.node?_cons_eq_some.2 ⟨hf, hn⟩)
  · rintro ⟨he, node, hp, h⟩
    obtain ⟨hf, rfl, hw, hn⟩ := Usage.partOf?_eq_some.1 hp
    refine ⟨fun above f rest e => ?_, fun path hne hp hne' => ?_, ?_, fun above f e node hn => ?_⟩
    · cases above with
      | nil =>
        cases e
        exact he
      | cons first above =>
        obtain ⟨rfl, hrest⟩ := List.cons.inj e
        exact h.notExempt above f rest hrest
    · rcases List.prefix_cons_iff.1 hp with rfl | ⟨q, rfl, hq⟩
      · exact absurd rfl hne
      · rw [Usage.partialAt_cons]
        refine ⟨hf, ?_⟩
        by_cases hq' : q = []
        · rw [hq']
          exact ⟨_, rfl, hw, hn⟩
        · exact h.opened q hq' hq fun e => hne' (by rw [e]; rfl)
    · rw [List.map_cons, Usage.node?_cons, Usage.field?_eq, if_pos hf]
      exact h.absent
    · cases above with
      | nil => exact absurd (List.cons.inj e).2 hc
      | cons first above =>
        obtain ⟨rfl, hrest⟩ := List.cons.inj e
        exact h.unhandled above f hrest node (Usage.node?_cons_eq_some.1 hn).2

/-- The test for a gap decides whether the chain is one. -/
lemma isGap_iff :
    isGap settings table side usage counterpart chain = true ↔
      Gap settings table side usage counterpart chain := by
  induction chain generalizing usage counterpart with
  | nil =>
    refine ⟨nofun, fun h => ?_⟩
    cases h.absent
  | cons field chain ih =>
    by_cases hc : chain = []
    · rw [hc, gap_singleton, isGap, Bool.and_eq_true, Bool.not_eq_true', Bool.not_eq_true']
    · rw [gap_cons hc, isGap_cons hc, Bool.and_eq_true, Bool.not_eq_true', Option.any_eq_true]
      simp only [ih]

/-- A gap is at most one field longer than the usage is deep. -/
lemma Gap.length_le (h : Gap settings table side usage counterpart chain) :
    chain.length ≤ usage.depth + 1 := by
  induction chain generalizing usage counterpart with
  | nil => exact Nat.zero_le _
  | cons field chain ih =>
    by_cases hc : chain = []
    · simp [hc]
    · obtain ⟨_, node, hp, hn⟩ := (gap_cons hc).1 h
      exact Nat.succ_le_succ ((ih hn).trans (Usage.depth_lt_of_partOf? hp))

/-- The gaps among the chains up to the depth of the usage are all gaps. -/
lemma mem_gaps :
    chain ∈ (table.chains (usage.depth + 1) fields).filter
        (isGap settings table side usage counterpart) ↔
      table.Declares fields chain ∧ Gap settings table side usage counterpart chain := by
  rw [List.mem_filter, TypeTable.mem_chains, isGap_iff, and_assoc]
  exact and_congr_right fun _ => ⟨And.right, fun h => ⟨h.length_le, h⟩⟩

end

/-! ## Names without dots -/

namespace TypeTable

variable {table : TypeTable}

/-- No field of a struct has a dot in its name. -/
def DotFree (table : TypeTable) : Prop :=
  ∀ key fields, table.structFields? key = some fields → ∀ field ∈ fields, '.' ∉ field.name.toList

/-- Fields that are found by way of aliases are those of a declared struct. -/
lemma exists_of_fieldsWithin {steps : Nat} {key : TypeKey} {fields : List (FieldDef Ty)}
    (h : table.fieldsWithin steps key = some fields) :
    ∃ named ∈ table.types, named.definition = .struct fields := by
  induction steps generalizing key with
  | zero => cases h
  | succ steps ih =>
    unfold fieldsWithin at h
    split at h
    · rename_i hk
      cases h
      exact ⟨_, List.mem_of_find?_eq_some hk, rfl⟩
    · exact ih h
    · cases h

/-- It is enough that the declared structs have no dot in the names of their fields. -/
lemma dotFree_of_types
    (h : ∀ named ∈ table.types, ∀ fields, named.definition = .struct fields →
      ∀ field ∈ fields, '.' ∉ field.name.toList) : table.DotFree := by
  intro key fields hk
  obtain ⟨named, hn, e⟩ := exists_of_fieldsWithin hk
  exact h named hn fields e

/-- The fields of an embedded struct are found under some key. -/
lemma exists_of_embedded? {field : FieldDef Ty} {inner : List (FieldDef Ty)}
    (h : table.embedded? field = some inner) : ∃ key, table.structFields? key = some inner := by
  unfold embedded? at h
  split at h
  · unfold embeddedFields? at h
    split at h
    · exact ⟨_, h⟩
    · exact ⟨_, h⟩
    · cases h
  · cases h

/-- A field that is reached by embedding has no dot in its name, if no declared field has. -/
lemma Embeds.dotFree (ht : table.DotFree) {fields : List (FieldDef Ty)} {path : Path}
    {field : FieldDef Ty} (h : table.Embeds fields path field)
    (hf : ∀ f ∈ fields, '.' ∉ f.name.toList) : '.' ∉ field.name.toList := by
  induction h with
  | here hm => exact hf _ hm
  | through _ hi _ ih =>
    obtain ⟨key, hk⟩ := exists_of_embedded? hi
    exact ih (ht key _ hk)

/-- The flat fields of a type have no dot in their names, if no declared field has. -/
lemma dotFree_of_singleFields? (ht : table.DotFree) {type : Ty} {inner : List FieldInfo}
    (h : table.singleFields? type = some inner) {field : FieldInfo} (hf : field ∈ inner) :
    '.' ∉ field.name.toList := by
  obtain ⟨c, hc, rfl⟩ := Option.map_eq_some_iff.1 h
  obtain ⟨hc, _⟩ := Option.filter_eq_some_iff.1 hc
  obtain ⟨path, key, fields, def', _, hk, he, _, _, rfl⟩ := mem_fields_iff.1 ⟨c, hc, hf⟩
  exact he.dotFree ht (ht key fields hk)

/-- The fields of a declared chain have no dot in their names, if no declared field has. -/
lemma Declares.dotFree (ht : table.DotFree) {fields chain : List FieldInfo}
    (h : table.Declares fields chain) (hf : ∀ f ∈ fields, '.' ∉ f.name.toList) :
    ∀ f ∈ chain, '.' ∉ f.name.toList := by
  induction h with
  | field hm =>
    intro f h
    rw [List.mem_singleton.1 h]
    exact hf _ hm
  | inside hm hi _ ih =>
    intro f h
    rcases List.mem_cons.1 h with rfl | h
    · exact hf _ hm
    · exact ih (fun g hg => dotFree_of_singleFields? ht hi hg) f h

end TypeTable

/-- Names without dots are recovered from the text that has them with dots between. -/
lemma splitOn_dotted {names : List String} (hne : names ≠ [])
    (hd : ∀ name ∈ names, '.' ∉ name.toList) :
    (".".intercalate names).toList.splitOn '.' = names.map String.toList := by
  rw [String.toList_intercalate]
  apply List.splitOn_intercalate
  · intro piece hp
    obtain ⟨name, hn, rfl⟩ := List.mem_map.1 hp
    exact hd name hn
  · simpa using hne

/-- A written path goes on another one only if its names go on those of the other one. -/
lemma names_of_goes_on {a b : List String} (ha : a ≠ []) (hb : b ≠ [])
    (da : ∀ name ∈ a, '.' ∉ name.toList) (db : ∀ name ∈ b, '.' ∉ name.toList) {rest : String}
    (e : ".".intercalate b = ".".intercalate a ++ "." ++ rest) :
    ∃ more, more ≠ [] ∧ b = a ++ more := by
  have split : b.map String.toList = a.map String.toList ++ rest.toList.splitOn '.' := by
    rw [← splitOn_dotted hb db, ← splitOn_dotted ha da, e, String.toList_append,
      String.toList_append, List.append_assoc]
    exact List.splitOnP_append_cons _ _ (by decide)
  obtain ⟨front, more, rfl, hfront, hmore⟩ := List.map_eq_append_iff.1 split
  refine ⟨more, ?_, ?_⟩
  · rintro rfl
    exact List.splitOn_ne_nil '.' rest.toList hmore.symm
  · rw [List.map_injective_iff.2 (fun _ _ => String.toList_injective) hfront]

section

variable {settings : Settings} {table : TypeTable} {side : Side} {usage : Usage}
  {fields counterpart : List FieldInfo}

/-- A gap does not go on another one: there is a node where a chain goes on, and none at a gap. -/
lemma Gap.not_goes_on {chain longer : List FieldInfo} {more : List String}
    (h : Gap settings table side usage counterpart chain)
    (h' : Gap settings table side usage counterpart longer) (hc : chain ≠ []) (hm : more ≠ []) :
    longer.map (·.name) ≠ chain.map (·.name) ++ more := by
  intro e
  obtain ⟨node, hn, _⟩ := h'.opened (chain.map (·.name)) (by simpa using hc) ⟨more, e.symm⟩
    (by rw [e]; simpa using hm)
  rw [h.absent] at hn
  cases hn

/-- The chains of a report are exactly the declared chains that are gaps, each of them in its place in
    the order of declaration. With names that hold no dot, a report never holds both a path and a path
    that goes on it. -/
theorem missingFields_gaps (settings : Settings) (table : TypeTable) (side : Side) (usage : Usage)
    (fields counterpart : List FieldInfo) :
    (∃ gaps : List (List FieldInfo),
      missingFields settings table side usage fields counterpart = gaps.map dotted ∧
      gaps.Sublist (table.chains (usage.depth + 1) fields) ∧
      ∀ chain, chain ∈ gaps ↔
        table.Declares fields chain ∧ Gap settings table side usage counterpart chain) ∧
    ((∀ field ∈ fields, '.' ∉ field.name.toList) → table.DotFree →
      ∀ path ∈ missingFields settings table side usage fields counterpart, ∀ rest : String,
        path ++ "." ++ rest ∉ missingFields settings table side usage fields counterpart) := by
  rw [missingFields_eq_gaps (Nat.lt_succ_self usage.depth)]
  refine ⟨⟨_, rfl, List.filter_sublist, fun chain => mem_gaps⟩, fun hf ht path hp rest hr => ?_⟩
  obtain ⟨chain, hc, rfl⟩ := List.mem_map.1 hp
  obtain ⟨longer, hl, e⟩ := List.mem_map.1 hr
  obtain ⟨dc, gc⟩ := mem_gaps.1 hc
  obtain ⟨dl, gl⟩ := mem_gaps.1 hl
  have plain {c : List FieldInfo} (d : table.Declares fields c) :
      ∀ name ∈ c.map (·.name), '.' ∉ name.toList := by
    intro name hn
    obtain ⟨field, hm, rfl⟩ := List.mem_map.1 hn
    exact d.dotFree ht hf field hm
  obtain ⟨more, hm, names⟩ := names_of_goes_on (by simpa using dc.ne_nil) (by simpa using dl.ne_nil)
    (plain dc) (plain dl) e
  exact gc.not_goes_on gl dc.ne_nil hm names

end

/-- Of an employee, with the identity of the boss of the boss read and nothing else, three paths are
    missing, and no one of them goes on another one. -/
theorem missingFields_gaps_staff :
    (∀ field ∈ Sample.employee, '.' ∉ field.name.toList) ∧ Sample.staff.DotFree ∧
      missingFields {} Sample.staff .source (.below ["Boss", "Boss", "ID"] .unit) Sample.employee [] =
        ["ID", "Boss.ID", "Boss.Boss.Boss"] ∧
      ∀ rest : String, "Boss.ID" ++ "." ++ rest ∉
        missingFields {} Sample.staff .source (.below ["Boss", "Boss", "ID"] .unit)
          Sample.employee [] := by
  have hf : ∀ field ∈ Sample.employee, '.' ∉ field.name.toList := by decide
  have ht : Sample.staff.DotFree := by
    apply TypeTable.dotFree_of_types
    intro named hn fields e
    rw [List.mem_singleton.1 hn] at e
    cases e
    decide
  have hm : missingFields {} Sample.staff .source (.below ["Boss", "Boss", "ID"] .unit)
      Sample.employee [] = ["ID", "Boss.ID", "Boss.Boss.Boss"] := by decide +kernel
  refine ⟨hf, ht, hm, fun rest => ?_⟩
  exact (missingFields_gaps _ _ _ _ _ _).2 hf ht "Boss.ID" (by rw [hm]; decide) rest

end FieldAudit
