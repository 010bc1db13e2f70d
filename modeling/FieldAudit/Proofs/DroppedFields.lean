import Mathlib
import FieldAudit.Proofs.Collection
import FieldAudit.Proofs.Judgement
import FieldAudit.Proofs.MissingFields

/-!
# No field is dropped silently

A field of the source that no selector of the body names, and a field of the destination that
neither a selector nor a key of a literal names, is always reported: nothing else in a body can make
it count as handled. Similarity of names is left aside, since it accepts other names on purpose.
-/

namespace FieldAudit

variable {settings : Settings} {table : TypeTable} {body : Block} {field : FieldInfo}

/-- A field of the source that is not selected, by itself, by its getter or by the struct through
    which it is promoted, is not handled. -/
lemma not_handled_of_not_selected (off : ¬ settings.minSimilarity > 0) (shape : Shape)
    (var : String) (hn : ¬ Block.Selects body field.name)
    (hg : ¬ Block.Selects body ("Get" ++ field.name))
    (ho : ∀ origin, field.promotedFrom = some origin → ¬ Block.Selects body origin) :
    field.isHandled settings (Block.sourceUsage body shape var).tree .source = false := by
  rw [Bool.eq_false_iff]
  intro h
  rcases FieldInfo.handled_cases off h with h | ⟨origin, e, h⟩ | ⟨_, h⟩
  · exact hn (Block.selects_of_hasField_sourceUsage h)
  · exact ho origin e (Block.selects_of_hasField_sourceUsage h)
  · exact hg (Block.selects_of_mem_methods_sourceUsage h)

/-- A field of the destination that is neither selected nor the key of a literal, by itself or by the
    struct through which it is promoted, is not handled. -/
lemma not_handled_of_not_supplied (off : ¬ settings.minSimilarity > 0)
    (resultName : Option String) (typeName : String)
    (hn : ∀ name, name = field.name ∨ field.promotedFrom = some name →
      ¬ Block.Selects body name ∧ ¬ Block.Keys body name) :
    field.isHandled settings (Block.outputUsage body resultName typeName).usage.tree .destination =
      false := by
  rw [Bool.eq_false_iff]
  intro h
  have absent (name : String) (hm : name = field.name ∨ field.promotedFrom = some name) :
      ¬ (Block.outputUsage body resultName typeName).usage.tree.hasField name = true := by
    intro h
    obtain ⟨h1, h2⟩ := hn name hm
    rcases Block.selects_or_keys_of_hasField_outputUsage h with h | h
    · exact h1 h
    · exact h2 h
  -- getters count on the source only
  rcases FieldInfo.handled_cases off h with h | ⟨origin, e, h⟩ | ⟨e, _⟩
  · exact absent field.name (.inl rfl) h
  · exact absent origin (.inr e) h
  · cases e

/-- A missing path is reported under the name of its variable. -/
lemma mem_qualify {var : Option String} {paths : List String} {path : String}
    (h : path ∈ paths) : (var.elim path fun v => v ++ "." ++ path) ∈ qualify var paths := by
  cases var with
  | none => exact h
  | some v => exact List.mem_map.2 ⟨path, h, rfl⟩

/-- A field that the body does not mention is reported, on the side of the source and on that of the
    destination, and the function is not valid. -/
theorem judge_reports_unmentioned {decl : FuncDecl} {sig : Signature} {pair : ConverterPair}
    {var : String} (off : ¬ settings.minSimilarity > 0)
    (hp : selectPair settings table decl sig = .ok pair) (hx : pair.source.name = some var)
    (hb : decl.body = some body)
    (hd : Block.isDelegating body pair.source.candidate.shape pair.dest.candidate.shape var =
      false) :
    ∃ v, judge settings table decl sig = .ok v ∧
      (∀ f ∈ pair.source.candidate.fields,
        f.isExempt settings pair.dest.candidate.fields = false →
        ¬ Block.Selects body f.name →
        ¬ Block.Selects body ("Get" ++ f.name) →
        (∀ origin, f.promotedFrom = some origin → ¬ Block.Selects body origin) →
        v.valid = false ∧ var ++ "." ++ f.name ∈ v.missingSource) ∧
      (∀ f ∈ pair.dest.candidate.fields,
        f.isExempt settings pair.source.candidate.fields = false →
        (∀ name, name = f.name ∨ f.promotedFrom = some name →
          ¬ Block.Selects body name ∧ ¬ Block.Keys body name) →
        v.valid = false ∧
          (pair.dest.name.elim f.name fun result => result ++ "." ++ f.name) ∈ v.missingDest) := by
  refine ⟨judgeBody settings table pair var body, judge_of_body hp hx hb hd, ?_, ?_⟩
  · intro f hf he hn hg ho
    have hh := not_handled_of_not_selected off pair.source.candidate.shape var hn hg ho
    have hm : var ++ "." ++ f.name ∈ (judgeBody settings table pair var body).missingSource :=
      List.mem_map.2 ⟨f.name, mem_missingFields_of_not_handled hf he hh, rfl⟩
    exact ⟨judgeBody_invalid (List.mem_append_left _ hm), hm⟩
  · intro f hf he hn
    have hh := not_handled_of_not_supplied off pair.dest.name pair.dest.candidate.name hn
    have hm : (pair.dest.name.elim f.name fun result => result ++ "." ++ f.name) ∈
        (judgeBody settings table pair var body).missingDest :=
      mem_qualify (mem_missingFields_of_not_handled hf he hh)
    exact ⟨judgeBody_invalid (List.mem_append_right _ hm), hm⟩

/-- A body that reads the other field in a closure, and returns a literal that sets the other one. -/
def Sample.nameDropped : Block :=
  [.assign [.ident "show"] .define
    [.funcLit [.expr (.call (.ident "print") [.selector (.ident "u") "ID"])]],
   .ret [.composite (some (.named none "UserDTO")) [.field "ID" (.selector (.ident "u") "ID")]]]

/-- The dropped field of the sample is reported on both sides. -/
theorem judge_reports_dropped_name :
    ∃ v, judge {} Sample.table (Sample.toDTO Sample.nameDropped) Sample.sig = .ok v ∧
      v.valid = false ∧ "u.Name" ∈ v.missingSource ∧ "Name" ∈ v.missingDest := by
  obtain ⟨v, hv, hs, hd⟩ := judge_reports_unmentioned (by decide)
    (Sample.selectPair_toDTO Sample.nameDropped) rfl rfl rfl
  have hn : ¬ Block.Selects Sample.nameDropped "Name" := by decide +kernel
  obtain ⟨h1, h2⟩ := hs _ (List.mem_cons_of_mem _ List.mem_cons_self) (by decide) hn
    (by decide +kernel) nofun
  refine ⟨v, hv, h1, h2, (hd _ (List.mem_cons_of_mem _ List.mem_cons_self) (by decide) ?_).2⟩
  rintro name (rfl | e)
  · exact ⟨hn, by decide +kernel⟩
  · cases e

end FieldAudit
