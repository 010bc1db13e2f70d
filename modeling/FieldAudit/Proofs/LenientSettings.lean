import Mathlib
import FieldAudit.Proofs.MissingFields
import FieldAudit.Proofs.RunReport

/-!
# A more lenient treatment of fields

Settings that exempt more fields, or let getters count, never make a field missing. A getter is the
only way in which a field can become handled, and a field without a record of its own is not looked
into, so that no path below it is opened. What is judged, and as what kind of converter, stays the
same; a run finds the same converters and no finding on a function that had none.
-/

namespace FieldAudit

/-- How much a treatment of fields that cannot be serialised lets pass. -/
def NonSerializable.leniency : NonSerializable → Nat
  | strict => 0
  | adaptive => 1
  | ignore => 2

/-- The second settings are the first ones with a more lenient treatment of fields, in any of its
    parts, and with no other change. -/
structure Settings.Lenient (s t : Settings) : Prop where
  excludeFields : s.excludeFields ⊆ t.excludeFields
  ignoreTags : s.ignoreTags ⊆ t.ignoreTags
  ignoreDeprecated : s.ignoreDeprecated = true → t.ignoreDeprecated = true
  includePrivate : t.includePrivate = true → s.includePrivate = true
  allowGetterFallback : s.allowGetterFallback = true → t.allowGetterFallback = true
  nonSerializable : s.nonSerializable.leniency ≤ t.nonSerializable.leniency
  others : t = { s with
    excludeFields := t.excludeFields
    ignoreTags := t.ignoreTags
    ignoreDeprecated := t.ignoreDeprecated
    includePrivate := t.includePrivate
    allowGetterFallback := t.allowGetterFallback
    nonSerializable := t.nonSerializable }

/-- A name that matches a pattern of a list matches one of a longer list. -/
lemma Pattern.matchesAny_mono {texts texts' : List String} {name : String}
    (h : texts ⊆ texts') (hm : matchesAny texts name = true) : matchesAny texts' name = true := by
  obtain ⟨pattern, hp, hm⟩ := List.any_eq_true.1 hm
  obtain ⟨text, ht, hp⟩ := List.mem_filterMap.1 hp
  exact List.any_eq_true.2 ⟨pattern, List.mem_filterMap.2 ⟨text, h ht, hp⟩, hm⟩

section

variable {s t : Settings} (h : s.Lenient t) {table : TypeTable} {side : Side} {usage : Usage}
  {fields counterpart : List FieldInfo} {field : FieldInfo}

include h

/-! ## Fields -/

/-- A field that is exempt by its type stays so. -/
lemma FieldInfo.exemptByType_mono (he : field.exemptByType s counterpart = true) :
    field.exemptByType t counterpart = true := by
  obtain ⟨hn, he⟩ := Bool.and_eq_true_iff.1 he
  refine Bool.and_eq_true_iff.2 ⟨hn, ?_⟩
  have hl := h.nonSerializable
  cases hs : s.nonSerializable <;> cases ht : t.nonSerializable <;> simp_all [NonSerializable.leniency]

/-- A field that is exempt stays so. -/
lemma FieldInfo.isExempt_mono (he : field.isExempt s counterpart = true) :
    field.isExempt t counterpart = true := by
  simp only [isExempt, Bool.or_eq_true, Bool.and_eq_true, Bool.not_eq_true'] at he ⊢
  rcases he with (((⟨hx, hp⟩ | hg) | hm) | ⟨hd, hi⟩) | he
  · refine .inl (.inl (.inl (.inl ⟨hx, ?_⟩)))
    rw [Bool.eq_false_iff] at hp ⊢
    exact fun hp' => hp (h.includePrivate hp')
  · obtain ⟨entry, hentry, hg⟩ := List.any_eq_true.1 hg
    exact .inl (.inl (.inl (.inr (List.any_eq_true.2 ⟨entry, h.ignoreTags hentry, hg⟩))))
  · exact .inl (.inl (.inr (Pattern.matchesAny_mono h.excludeFields hm)))
  · exact .inl (.inr ⟨hd, h.ignoreDeprecated hi⟩)
  · exact .inr (exemptByType_mono h he)

/-- Handling by a similar name is the same under both settings. -/
lemma FieldInfo.handledBySimilarity_eq :
    field.handledBySimilarity t usage = field.handledBySimilarity s usage := by
  rw [handledBySimilarity, handledBySimilarity,
    show t.minSimilarity = s.minSimilarity from congrArg (·.minSimilarity) h.others]

/-- A field that is handled stays so. -/
lemma FieldInfo.isHandled_mono (hh : field.isHandled s usage side = true) :
    field.isHandled t usage side = true := by
  rw [isHandled, handledBySimilarity_eq h]
  simp only [isHandled, handledByGetter, Bool.or_eq_true, Bool.and_eq_true] at hh ⊢
  rcases hh with ((hh | hh) | ⟨⟨hs, hg⟩, hm⟩) | hh
  · exact .inl (.inl (.inl hh))
  · exact .inl (.inl (.inr hh))
  · exact .inl (.inr ⟨⟨hs, h.allowGetterFallback hg⟩, hm⟩)
  · exact .inr hh

/-- What is reported for one field is reported before, if this holds of what is reported below it. -/
lemma missingAt_sublist
    (below : ∀ node, usage.partOf? field.name = some node → ∀ inner,
      (missingFields t table side node inner (table.fieldsBelow counterpart field.name)).Sublist
        (missingFields s table side node inner (table.fieldsBelow counterpart field.name))) :
    (missingAt t table side usage counterpart field).Sublist
      (missingAt s table side usage counterpart field) := by
  cases hs : field.isExempt s counterpart with
  | true => simp [missingAt, FieldInfo.isExempt_mono h hs]
  | false =>
    cases ht : field.isExempt t counterpart with
    | true => simp [missingAt, ht]
    | false =>
      cases hh : field.isHandled s usage side with
      | true =>
        -- handled in both: the same part is looked into
        have hh' := FieldInfo.isHandled_mono h hh
        cases hp : usage.partOf? field.name with
        | none => simp [missingAt, hs, ht, hh, hh', hp]
        | some node =>
          cases hi : table.singleFields? field.type with
          | none => simp [missingAt, hs, ht, hh, hh', hp, hi]
          | some inner => simpa [missingAt, hs, ht, hh, hh', hp, hi] using (below node hp inner).map _
      | false =>
        -- handled at most in the second: nothing is looked into
        have hp := FieldInfo.partOf?_of_not_handled hh
        cases hh' : field.isHandled t usage side with
        | true => simp [missingAt, ht, hh', hp]
        | false => simp [missingAt, hs, ht, hh, hh']

/-- What is reported for a list of fields is reported before. -/
lemma missingFields_sublist :
    (missingFields t table side usage fields counterpart).Sublist
      (missingFields s table side usage fields counterpart) := by
  -- going down to a part of the usage makes its longest path shorter
  induction hd : usage.depth using Nat.strong_induction_on generalizing usage fields counterpart with
  | _ d ih =>
    rw [missingFields_eq, missingFields_eq]
    apply List.Sublist.flatMap_right
    intro field _
    apply missingAt_sublist h
    intro node hp inner
    exact ih node.depth (hd ▸ Usage.depth_lt_of_partOf? hp) rfl

/-! ## Verdicts -/

/-- The same functions are converters, with the same source and destination. -/
lemma classify_lenient (decl : FuncDecl) (params results : List Ty) :
    classify t table decl params results = classify s table decl params results := by
  rw [h.others]
  rfl

/-- The same pair is judged, or there is none for the same reason. -/
lemma selectPair_lenient (decl : FuncDecl) (sig : Signature) :
    selectPair t table decl sig = selectPair s table decl sig := by
  rw [selectPair, selectPair, classify_lenient h]

end

/-- The first verdict finds nothing missing that the second one does not find, and it agrees with it
    in all that does not depend on missing fields. -/
structure Verdict.Within (w v : Verdict) : Prop where
  kind : w.kind = v.kind
  delegating : w.delegating = v.delegating
  missingSource : w.missingSource.Sublist v.missingSource
  missingDest : w.missingDest.Sublist v.missingDest
  valid : v.valid = true → w.valid = true

/-- The first finding is on the same function as the second one, with nothing more missing. -/
structure Finding.Within (f g : Finding) : Prop where
  file : f.file = g.file
  line : f.line = g.line
  column : f.column = g.column
  function : f.function = g.function
  verdict : f.verdict.Within g.verdict

/-- The first silenced finding is on the same function as the second one, for the same reason and
    with nothing more missing. -/
structure Suppressed.Within (a b : Suppressed) : Prop where
  finding : a.finding.Within b.finding
  reason : a.reason = b.reason

/-- Findings on the same function have the same place in the order of findings. -/
lemma Finding.Within.key_eq {f g : Finding} (h : f.Within g) : f.key = g.key := by
  rw [Finding.key, Finding.key, h.file, h.line, h.function]

/-- A verdict is within itself. -/
lemma Verdict.Within.refl (v : Verdict) : v.Within v :=
  ⟨rfl, rfl, .refl _, .refl _, id⟩

/-- Paths that stand in a list stand in it below the name of a variable. -/
lemma qualify_sublist {paths paths' : List String} (h : paths.Sublist paths') (var : Option String) :
    (qualify var paths).Sublist (qualify var paths') := by
  cases var with
  | none => exact h
  | some v => exact h.map _

section

variable {s t : Settings} (h : s.Lenient t) {table : TypeTable}

include h

/-- The verdict on a body under the lenient settings is within that under the others. -/
lemma judgeBody_within (pair : ConverterPair) (var : String) (body : Block) :
    (judgeBody t table pair var body).Within (judgeBody s table pair var body) := by
  have hsource : (judgeBody t table pair var body).missingSource.Sublist
      (judgeBody s table pair var body).missingSource :=
    qualify_sublist (missingFields_sublist h) (some var)
  have hdest : (judgeBody t table pair var body).missingDest.Sublist
      (judgeBody s table pair var body).missingDest :=
    qualify_sublist (missingFields_sublist h) pair.dest.name
  refine ⟨rfl, rfl, hsource, hdest, ?_⟩
  intro hv
  obtain ⟨e1, e2⟩ := judgeBody_valid.1 hv
  rw [e1] at hsource
  rw [e2] at hdest
  exact judgeBody_valid.2 ⟨List.sublist_nil.1 hsource, List.sublist_nil.1 hdest⟩

/-- The verdict on a function, with a body or without, is within that under the other settings. -/
lemma verdictOn_within (pair : ConverterPair) (var : String) (body : Option Block) :
    (verdictOn t table pair var body).Within (verdictOn s table pair var body) := by
  cases body with
  | none => exact .refl _
  | some body =>
    simp only [verdictOn, Option.elim_some]
    split
    · exact .refl _
    · exact judgeBody_within h pair var body

/-- A function is refused for the same reason, or both verdicts are there and the second one is
    within the first one. -/
lemma judge_lenient (decl : FuncDecl) (sig : Signature) :
    (∃ r, judge s table decl sig = .error r ∧ judge t table decl sig = .error r) ∨
      ∃ v w, judge s table decl sig = .ok v ∧ judge t table decl sig = .ok w ∧ w.Within v := by
  rw [judge_eq, judge_eq, selectPair_lenient h]
  split
  · exact .inl ⟨_, rfl, rfl⟩
  · cases selectPair s table decl sig with
    | error r => exact .inl ⟨r, rfl, rfl⟩
    | ok pair =>
      simp only [Except.bind]
      cases pair.source.name with
      | none => exact .inl ⟨_, rfl, rfl⟩
      | some var => exact .inr ⟨_, _, rfl, rfl, verdictOn_within h pair var decl.body⟩

/-! ## Runs -/

/-- The lenient settings check the same files. -/
lemma Program.checkedFiles_lenient (p : Program) : p.checkedFiles t = p.checkedFiles s := by
  rw [h.others]
  rfl

/-- The lenient settings find the same converters. -/
lemma Program.converters_lenient (p : Program) : p.converters t = p.converters s := by
  rw [h.others]
  rfl

/-- A converter that is incomplete was so before, and misses no more than it did. -/
lemma Program.incomplete?_lenient {p : Program} {c : Converter} {i : Incomplete}
    (hi : p.incomplete? t c = some i) :
    ∃ j, p.incomplete? s c = some j ∧ j.path = i.path ∧ j.decl = i.decl ∧
      i.verdict.Within j.verdict := by
  obtain ⟨hp, hd, hj, hv⟩ := incomplete?_eq_some.1 hi
  rcases judge_lenient h c.decl c.sig with ⟨r, _, e⟩ | ⟨v, w, es, et, hw⟩
  · rw [hj] at e
    cases e
  · rw [hj] at et
    cases et
    have hv' : v.valid = false := by
      rw [Bool.eq_false_iff]
      intro hv'
      rw [hw.valid hv'] at hv
      cases hv
    refine ⟨⟨c.path, c.decl, v⟩, incomplete?_eq_some.2 ⟨rfl, rfl, es, hv'⟩, hp.symm, hd.symm, hw⟩

omit h in
/-- Where one partial map gives a result only if another one gives a matching result, the results of
    the first one match a part of those of the second one. -/
lemma sublistForall₂_filterMap {α β : Type} {R : β → β → Prop} {f g : α → Option β}
    (hfg : ∀ a b, f a = some b → ∃ c, g a = some c ∧ R b c) (l : List α) :
    List.SublistForall₂ R (l.filterMap f) (l.filterMap g) := by
  induction l with
  | nil => exact .nil
  | cons a l ih =>
    cases hf : f a with
    | none =>
      rw [List.filterMap_cons_none hf]
      cases hg : g a with
      | none => rwa [List.filterMap_cons_none hg]
      | some c =>
        rw [List.filterMap_cons_some hg]
        exact .cons_right ih
    | some b =>
      obtain ⟨c, hg, hbc⟩ := hfg a b hf
      rw [List.filterMap_cons_some hf, List.filterMap_cons_some hg]
      exact .cons hbc ih

/-- The findings of a run that stand. -/
lemma Program.findings_lenient (p : Program) :
    List.SublistForall₂ Finding.Within (p.check t).findings (p.check s).findings := by
  rw [check_eq, check_eq]
  apply sublistForall₂_mergeSort fun _ _ hw => hw.key_eq
  simp only [incompletes, converters_lenient h, List.filter_filterMap, List.map_filterMap]
  apply sublistForall₂_filterMap
  intro c f hf
  -- whether a finding is silenced is said in the doc comment, which is the same in both runs
  obtain ⟨i, hi, rfl⟩ := Option.map_eq_some_iff.1 hf
  obtain ⟨hi, hr⟩ := Option.filter_eq_some_iff.1 hi
  obtain ⟨j, hj, hp, hd, hw⟩ := incomplete?_lenient h hi
  have hr' : j.isReported = true := by rwa [Incomplete.isReported, hd]
  refine ⟨j.finding, ?_, ?_⟩
  · rw [hj, Option.filter_some_pos hr', Option.map_some]
  · obtain ⟨path, decl, v⟩ := j
    obtain rfl : path = i.path := hp
    obtain rfl : decl = i.decl := hd
    exact ⟨rfl, rfl, rfl, rfl, hw⟩

/-- The findings of a run that are silenced. -/
lemma Program.suppressed_lenient (p : Program) :
    List.SublistForall₂ Suppressed.Within (p.check t).suppressed (p.check s).suppressed := by
  rw [check_eq, check_eq]
  apply sublistForall₂_mergeSort fun _ _ hw => hw.finding.key_eq
  simp only [incompletes, converters_lenient h, List.filterMap_filterMap]
  apply sublistForall₂_filterMap
  intro c a ha
  obtain ⟨i, hi, hs⟩ := Option.bind_eq_some_iff.1 ha
  obtain ⟨reason, hr, rfl⟩ := Option.map_eq_some_iff.1 hs
  obtain ⟨j, hj, hp, hd, hw⟩ := incomplete?_lenient h hi
  obtain ⟨path, decl, v⟩ := j
  obtain rfl : path = i.path := hp
  obtain rfl : decl = i.decl := hd
  refine ⟨⟨Incomplete.finding ⟨i.path, i.decl, v⟩, reason⟩, ?_, ⟨⟨rfl, rfl, rfl, rfl, hw⟩, rfl⟩⟩
  rw [hj, Option.bind_some, Incomplete.suppressed?, hr, Option.map_some]

end

/-- A more lenient treatment of fields refuses a function for the same reason or not at all, leaves
    the kind of a converter and whether it is looked into as they are, and finds nothing missing that
    was not missing before. A run looks at the same files and finds the same converters in them, and
    its findings, those that stand and those that are silenced, match findings of before on the same
    functions, in the same order. -/
theorem lenient_never_adds_misses {s t : Settings} (h : s.Lenient t) :
    (∀ (table : TypeTable) (decl : FuncDecl) (sig : Signature),
      (∀ r, judge t table decl sig = .error r ↔ judge s table decl sig = .error r) ∧
      ∀ v w, judge s table decl sig = .ok v → judge t table decl sig = .ok w →
        w.kind = v.kind ∧ w.delegating = v.delegating ∧
        w.missingSource.Sublist v.missingSource ∧ w.missingDest.Sublist v.missingDest ∧
        (v.valid = true → w.valid = true)) ∧
    ∀ p : Program,
      (p.check t).scanned = (p.check s).scanned ∧
      (p.check t).converters = (p.check s).converters ∧
      List.SublistForall₂ Finding.Within (p.check t).findings (p.check s).findings ∧
      List.SublistForall₂ Suppressed.Within (p.check t).suppressed (p.check s).suppressed := by
  refine ⟨fun table decl sig => ?_, fun p => ⟨?_, ?_, p.findings_lenient h, p.suppressed_lenient h⟩⟩
  · rcases judge_lenient h decl sig with ⟨r, es, et⟩ | ⟨v, w, es, et, hw⟩
    · rw [es, et]
      exact ⟨fun _ => .rfl, nofun⟩
    · rw [es, et]
      refine ⟨fun r => ⟨nofun, nofun⟩, ?_⟩
      rintro _ _ ⟨⟩ ⟨⟩
      exact ⟨hw.kind, hw.delegating, hw.missingSource, hw.missingDest, hw.valid⟩
  · rw [Program.check_eq, Program.check_eq, Program.checkedFiles_lenient h]
  · rw [Program.check_eq, Program.check_eq, Program.converters_lenient h]

namespace Sample

/-- Settings under which every field counts, and only a field itself. -/
def strict : Settings :=
  { allowGetterFallback := false, includePrivate := true, nonSerializable := .strict }

/-- Settings that are more lenient in every part. -/
def lenient : Settings :=
  { excludeFields := ["N*"], ignoreTags := ["json"], ignoreDeprecated := true
    nonSerializable := .ignore }

end Sample

/-- The lenient settings exempt one of the two fields that the strict ones find missing on each
    side. -/
theorem lenient_sample :
    Sample.strict.Lenient Sample.lenient ∧
      (judge Sample.strict Sample.table Sample.incomplete Sample.sig).toOption.map (·.missing) =
        some ["u.ID", "u.Name", "ID", "Name"] ∧
      (judge Sample.lenient Sample.table Sample.incomplete Sample.sig).toOption.map (·.missing) =
        some ["u.ID", "ID"] ∧
      List.SublistForall₂ Finding.Within (Sample.program.check Sample.lenient).findings
        (Sample.program.check Sample.strict).findings := by
  have h : Sample.strict.Lenient Sample.lenient :=
    ⟨nofun, nofun, nofun, nofun, nofun, by decide, rfl⟩
  obtain ⟨_, hp⟩ := lenient_never_adds_misses h
  obtain ⟨_, _, hf, _⟩ := hp Sample.program
  refine ⟨h, ?_, ?_, hf⟩
  · decide +kernel
  · decide +kernel

end FieldAudit
