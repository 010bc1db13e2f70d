import Mathlib
import FieldAudit.Suppression
import FieldAudit.Proofs.TextPieces

/-!
# Suppressing directives

The lines of a doc comment that suppress, as rules: this program's own directive, with a reason after a dash
or without, and the general one, for all linters or for a list of them. The reader of lines accepts exactly
what follows these rules, and the first such line of a doc comment decides.
-/

namespace FieldAudit.Suppression

open Text

/-- Nothing, or a comment that goes on to the end of the line. -/
inductive Remark : List Char → Prop where
  | none :
    Remark []
  | comment {gap text : List Char} :
    AllBlank gap →
    '\n' ∉ text →
    Remark (gap ++ "//".toList ++ text)

/-- The directive of this program, with the reason that it gives. -/
inductive Own : List Char → String → Prop where
  | bare {lead tail : List Char} :
    AllBlank lead →
    AllBlank tail →
    NotLedBy isWord tail →
    Own (lead ++ "lostfield:ignore".toList ++ tail) ""
  | reasoned {lead space gap reason tail : List Char} :
    AllBlank lead →
    AllBlank space →
    NotLedBy isWord space →
    AllBlank gap →
    Trimmed reason →
    AllBlank tail →
    '\n' ∉ reason ++ tail →
    Own (lead ++ "lostfield:ignore".toList ++ (space ++ '-' :: (gap ++ reason ++ tail)))
      (.ofList reason)

/-- The list has the name between its commas, with blanks around it or none. -/
def Lists (linters name : List Char) : Prop :=
  ∃ piece ∈ splitAt ',' linters, ∃ gap tail,
    AllBlank gap ∧ AllBlank tail ∧ piece = gap ++ name ++ tail

/-- The list has this linter, or all of them. -/
def Covers (linters : List Char) : Prop :=
  Lists linters "lostfield".toList ∨ Lists linters "all".toList

/-- The general directive, with the reason that is kept for it. -/
inductive General : List Char → String → Prop where
  | bare {lead remark : List Char} :
    AllBlank lead →
    Remark remark →
    General (lead ++ "nolint".toList ++ remark) ""
  | listed {lead linters remark : List Char} :
    AllBlank lead →
    (∀ c ∈ linters, isListed c = true) →
    Remark remark →
    Covers linters →
    General (lead ++ "nolint:".toList ++ (linters ++ remark)) "nolint"

/-- The line suppresses with the reason. -/
def Directive (line reason : String) : Prop :=
  Own line.toList reason ∨ General line.toList reason

/-- Whether a character may stand in the name of a linter. -/
def isPlain (c : Char) : Bool := isPlainWord c || c == '-'

/-- A linter in a list, with the blanks around its name. -/
structure Linter where
  gap : String
  name : String
  tail : String
  blank_gap : AllBlank gap.toList
  blank_tail : AllBlank tail.toList
  plain : name.toList.all isPlain = true

namespace Linter

/-- The name as it stands in a list. -/
def text (l : Linter) : String := l.gap ++ l.name ++ l.tail

/-- The linters with commas between them. -/
def listed (linters : List Linter) : String := ",".intercalate (linters.map text)

end Linter

/-! ## Parts of a line -/

section

variable {lead s : List Char}

/-- Trimming drops blanks before a text that starts with none. -/
lemma trimStartBy_lead (hl : AllBlank lead) (hs : NotLedBy isBlank s) :
    trimStartBy isBlank (lead ++ s) = s := by
  rw [trimStartBy_append hl]
  exact dropWhile_of_notLedBy hs

/-- The test for a remark decides whether nothing or a remark follows. -/
lemma isRemark_iff : isRemark s = true ↔ Remark s := by
  rw [isRemark, Bool.or_eq_true, Bool.and_eq_true, Bool.not_eq_true', startsWith_iff]
  constructor
  · rintro (h | ⟨⟨text, e⟩, hn⟩)
    · rw [List.isEmpty_iff.1 h]
      exact .none
    · obtain ⟨gap, hg, cut⟩ := exists_blank_append s
      rw [← e] at hn cut
      rw [cut, ← List.append_assoc]
      refine .comment hg fun hm => ?_
      rw [List.contains_eq_mem, decide_eq_false_iff_not] at hn
      exact hn (List.mem_append_right _ hm)
  · rintro (_ | ⟨hg, hn⟩)
    · exact .inl rfl
    · rename_i gap text
      have kept : trimStartBy isBlank (gap ++ "//".toList ++ text) = "//".toList ++ text := by
        rw [List.append_assoc]
        exact trimStartBy_lead hg (notLedBy_cons (by decide) _)
      right
      rw [kept]
      refine ⟨⟨text, rfl⟩, ?_⟩
      rw [List.contains_eq_mem, decide_eq_false_iff_not, List.mem_append, not_or]
      exact ⟨by decide, hn⟩

instance : DecidablePred Remark := fun s => decidable_of_iff (isRemark s = true) isRemark_iff

/-- A reason is what stands between blanks up to the end of the line. -/
lemma reason?_eq_some {rest : List Char} {r : String} :
    reason? rest = some r ↔ ∃ gap reason tail, AllBlank gap ∧ Trimmed reason ∧ AllBlank tail ∧
      '\n' ∉ reason ++ tail ∧ rest = gap ++ reason ++ tail ∧ .ofList reason = r := by
  have again : trim (trimStartBy isBlank rest) = trim rest := by
    rw [trim, trim, trimStartBy, trimStartBy, List.dropWhile_idempotent]
  rw [reason?]
  simp only [again]
  constructor
  · intro h
    split at h
    · cases h
    · rename_i hn
      cases h
      obtain ⟨lead, hl, start⟩ := exists_blank_append rest
      obtain ⟨trimmed, gap, tail, hg, ht, cut⟩ := trim_eq_iff.1 again
      refine ⟨lead ++ gap, trim rest, tail, hl.append hg, trimmed, ht, fun hm => hn ?_, ?_, rfl⟩
      · rw [cut, List.append_assoc]
        exact List.mem_append_right _ hm
      · rw [List.append_assoc, List.append_assoc, ← List.append_assoc gap, ← cut]
        exact start
  · rintro ⟨gap, reason, tail, hg, trimmed, ht, hn, rfl, rfl⟩
    have inside : ∀ c, c ∈ trimStartBy isBlank (gap ++ reason ++ tail) → c ∈ reason ++ tail := by
      intro c hc
      rw [List.append_assoc, trimStartBy_append hg] at hc
      exact (List.dropWhile_sublist isBlank).mem hc
    have found : trim (gap ++ reason ++ tail) = reason :=
      trim_eq_iff.2 ⟨trimmed, gap, tail, hg, ht, rfl⟩
    rw [if_neg fun hm => hn (inside _ hm), found]

end

/-! ## Lists of linters -/

section

variable {linters gap remark : List Char}

/-- The own name has no blanks at its ends. -/
lemma trimmed_lostfield : Trimmed "lostfield".toList := by decide

/-- The name for all linters has no blanks at its ends. -/
lemma trimmed_all : Trimmed "all".toList := by decide

/-- A name is listed exactly if it is a piece between commas, blanks at its ends apart. -/
lemma lists_iff {name : List Char} (h : Trimmed name) :
    Lists linters name ↔ ∃ piece ∈ splitAt ',' linters, trim piece = name := by
  constructor
  · rintro ⟨piece, hp, around⟩
    exact ⟨piece, hp, trim_eq_iff.2 ⟨h, around⟩⟩
  · rintro ⟨piece, hp, e⟩
    exact ⟨piece, hp, (trim_eq_iff.1 e).2⟩

/-- The test for a list of linters decides whether it covers this one. -/
lemma names_iff : names linters = true ↔ Covers linters := by
  rw [names, Covers, lists_iff trimmed_lostfield, lists_iff trimmed_all, List.any_map, List.any_eq_true]
  simp only [Function.comp_apply, Bool.or_eq_true, beq_iff_eq, and_or_left, exists_or]

/-- Blanks at the end of a list do not matter. -/
lemma names_append_blank (linters : List Char) (h : AllBlank gap) :
    names (linters ++ gap) = names linters := by
  have noComma : ',' ∉ gap := fun hm => absurd (h ',' hm) (by decide)
  obtain ⟨front, last, before, after⟩ := splitAt_append_of_notMem linters noComma
  rw [names, names, before, after, List.map_append, List.map_append, List.map_singleton,
    List.map_singleton, trim_append_blank last h]

/-- Blanks may stand in a list of linters. -/
lemma isListed_of_isBlank {c : Char} (h : isBlank c = true) : isListed c = true := by
  rw [isListed, h, Bool.or_true]

/-- A character of a linter's name stands between the control characters and the last letter. -/
lemma toNat_of_isPlain {c : Char} (h : isPlain c = true) :
    0x2d ≤ c.toNat ∧ c.toNat ≤ 0x7a := by
  simp only [isPlain, isPlainWord, Char.isAlphanum, Char.isAlpha, Char.isUpper, Char.isLower, Char.isDigit,
    Bool.or_eq_true, beq_iff_eq, Bool.and_eq_true, decide_eq_true_eq, ge_iff_le,
    UInt32.le_iff_toNat_le] at h
  rcases h with (((⟨h1, h2⟩ | ⟨h1, h2⟩) | ⟨h1, h2⟩) | rfl) | rfl
  · exact ⟨le_trans (by decide) h1, le_trans h2 (by decide)⟩
  · exact ⟨le_trans (by decide) h1, le_trans h2 (by decide)⟩
  · exact ⟨le_trans (by decide) h1, le_trans h2 (by decide)⟩
  · decide
  · decide

/-- The characters of the name of a linter are no blanks. -/
lemma not_isBlank_of_isPlain {c : Char} (h : isPlain c = true) : ¬ isBlank c = true := by
  intro hb
  have bounds := toNat_of_isPlain h
  have outside := toNat_of_isBlank hb
  omega

namespace Linter

variable (l : Linter)

/-- A listed linter is its name with blanks around it. -/
lemma toList_text : l.text.toList = l.gap.toList ++ l.name.toList ++ l.tail.toList := by
  rw [text, String.toList_append, String.toList_append]

/-- The name of a linter has no blanks at its ends. -/
lemma trimmed_name : Trimmed l.name.toList := by
  have notBlank : ∀ c ∈ l.name.toList, ¬ isBlank c = true :=
    fun c hc => not_isBlank_of_isPlain (List.all_eq_true.1 l.plain c hc)
  constructor
  · intro c hc
    exact notBlank c (List.mem_of_mem_head? hc)
  · intro c hc
    exact notBlank c (List.mem_reverse.1 (List.mem_of_mem_head? hc))

/-- Trimming a listed linter leaves its name. -/
lemma trim_text : trim l.text.toList = l.name.toList :=
  trim_eq_iff.2 ⟨l.trimmed_name, l.gap.toList, l.tail.toList, l.blank_gap, l.blank_tail, l.toList_text⟩

variable {l} in
/-- A listed linter consists of blanks and characters of names. -/
lemma mem_text {c : Char} (h : c ∈ l.text.toList) :
    isBlank c = true ∨ isPlain c = true := by
  rw [toList_text, List.mem_append, List.mem_append] at h
  rcases h with (h | h) | h
  · exact .inl (l.blank_gap c h)
  · exact .inr (List.all_eq_true.1 l.plain c h)
  · exact .inl (l.blank_tail c h)

/-- No comma stands in a listed linter. -/
lemma comma_notMem_text : ',' ∉ l.text.toList := by
  intro h
  rcases mem_text h with hb | hp
  · exact absurd hb (by decide)
  · exact absurd hp (by decide)

/-- A list of linters is their texts with commas between them. -/
lemma toList_listed (linters : List Linter) :
    (listed linters).toList = [','].intercalate (linters.map fun l => l.text.toList) := by
  rw [listed, String.toList_intercalate, List.map_map]
  rfl

/-- A written list of linters has only characters that may stand in one. -/
lemma isListed_of_mem_listed {linters : List Linter} {c : Char} (h : c ∈ (listed linters).toList) :
    isListed c = true := by
  have inText : ∀ l : Linter, c ∈ l.text.toList → isListed c = true := by
    intro l hc
    rcases mem_text hc with hb | hp
    · exact isListed_of_isBlank hb
    · rw [isPlain, Bool.or_eq_true] at hp
      rcases hp with hw | hd
      · simp [isListed, isWord, hw]
      · simp [isListed, hd]
  rw [toList_listed] at h
  induction linters with
  | nil => exact absurd h List.not_mem_nil
  | cons l linters ih =>
    cases linters with
    | nil =>
      rw [List.map_singleton, List.intercalate_singleton] at h
      exact inText l h
    | cons next linters =>
      rw [List.map_cons, List.map_cons, List.intercalate_cons_cons, List.mem_append, List.mem_append,
        List.mem_singleton] at h
      rcases h with (h | rfl) | h
      · exact inText l h
      · decide
      · exact ih h

/-- Cutting a written list at its commas gives back the linters. -/
lemma splitAt_listed {linters : List Linter} (ne : linters ≠ []) :
    splitAt ',' (listed linters).toList = linters.map fun l => l.text.toList := by
  rw [toList_listed]
  apply splitAt_intercalate
  · exact fun e => ne (List.map_eq_nil_iff.1 e)
  · intro piece hp
    obtain ⟨l, _, rfl⟩ := List.mem_map.1 hp
    exact l.comma_notMem_text

/-- A written list has the names of its linters and no others. -/
lemma lists_listed {linters : List Linter} (ne : linters ≠ []) {name : String}
    (h : Trimmed name.toList) :
    Lists (listed linters).toList name.toList ↔ name ∈ linters.map Linter.name := by
  rw [lists_iff h, splitAt_listed ne, List.mem_map]
  constructor
  · rintro ⟨piece, hp, e⟩
    obtain ⟨l, hl, rfl⟩ := List.mem_map.1 hp
    rw [trim_text] at e
    exact ⟨l, hl, String.toList_inj.1 e⟩
  · rintro ⟨l, hl, rfl⟩
    exact ⟨l.text.toList, List.mem_map.2 ⟨l, hl, rfl⟩, l.trim_text⟩

/-- A written list covers this linter exactly if it has its name or that for all linters. -/
lemma names_listed (linters : List Linter) :
    names (listed linters).toList = true ↔
      "lostfield" ∈ linters.map Linter.name ∨ "all" ∈ linters.map Linter.name := by
  cases linters with
  | nil => decide
  | cons l linters =>
    have ne := List.cons_ne_nil l linters
    rw [names_iff, Covers, lists_listed ne trimmed_lostfield, lists_listed ne trimmed_all]

end Linter

/-- The blanks before a comment are taken for a part of the list, the comment itself is not. -/
lemma span_isListed (hs : ∀ c ∈ linters, isListed c = true) (hr : Remark remark) :
    ∃ gap, AllBlank gap ∧ (linters ++ remark).takeWhile isListed = linters ++ gap ∧
      Remark ((linters ++ remark).dropWhile isListed) := by
  rw [List.takeWhile_append_of_pos hs, List.dropWhile_append_of_pos hs]
  cases hr with
  | none => exact ⟨[], allBlank_nil, rfl, .none⟩
  | comment hg hn =>
    rename_i gap text
    have blanks : ∀ c ∈ gap, isListed c = true := fun c hc => isListed_of_isBlank (hg c hc)
    have slash : NotLedBy isListed ("//".toList ++ text) := notLedBy_cons (by decide) _
    refine ⟨gap, hg, ?_, ?_⟩
    · rw [List.append_assoc, List.takeWhile_append_of_pos blanks, takeWhile_of_notLedBy slash,
        List.append_nil]
    · rw [List.append_assoc, List.dropWhile_append_of_pos blanks, dropWhile_of_notLedBy slash]
      exact .comment allBlank_nil hn

end

/-! ## The two directives -/

section

variable {lead line rest : List Char} {reason : String}

/-- What follows blanks and a word that begins with no blank is found. -/
lemma afterStart?_eq_some_iff {word : List Char} (hw : ∀ rest, NotLedBy isBlank (word ++ rest)) :
    afterStart? word (trimStartBy isBlank line) = some rest ↔
      ∃ lead, AllBlank lead ∧ line = lead ++ word ++ rest := by
  rw [afterStart?_eq_some]
  constructor
  · intro e
    obtain ⟨lead, hl, cut⟩ := exists_blank_append line
    rw [e, ← List.append_assoc] at cut
    exact ⟨lead, hl, cut⟩
  · rintro ⟨lead, hl, rfl⟩
    rw [List.append_assoc, trimStartBy_lead hl (hw rest)]

/-- The own directive does not start with a blank. -/
lemma notLedBy_own (rest : List Char) : NotLedBy isBlank ("lostfield:ignore".toList ++ rest) :=
  notLedBy_cons (by decide) _

/-- The general directive does not start with a blank. -/
lemma notLedBy_general (rest : List Char) : NotLedBy isBlank ("nolint".toList ++ rest) :=
  notLedBy_cons (by decide) _

/-- The colon of the general directive may be read as the first character of what follows. -/
lemma append_colon (lead rest : List Char) :
    lead ++ "nolint:".toList ++ rest = lead ++ "nolint".toList ++ ':' :: rest := by
  rw [List.append_assoc, List.append_assoc]
  rfl

/-- The own directive is found with its reason exactly in the lines of its form. -/
lemma ownDirective?_eq_some : ownDirective? line = some reason ↔ Own line reason := by
  rw [ownDirective?, Option.bind_eq_some_iff]
  constructor
  · rintro ⟨rest, hs, h⟩
    obtain ⟨lead, hl, rfl⟩ := (afterStart?_eq_some_iff notLedBy_own).1 hs
    obtain ⟨space, hb, cut⟩ := exists_blank_append rest
    split at h
    · cases h
    · rename_i hw
      rw [not_any_head?_iff] at hw
      split at h
      · rename_i e
        cases h
        rw [e, List.append_nil] at cut
        exact .bare hl (cut ▸ hb) hw
      · rename_i after e
        obtain ⟨gap, text, tail, hg, trimmed, ht, hn, rfl, rfl⟩ := reason?_eq_some.1 h
        rw [e] at cut
        rw [cut] at hw ⊢
        exact .reasoned hl hb hw.of_append hg trimmed ht hn
      · cases h
  · intro h
    cases h with
    | bare hl ht hw =>
      rename_i lead tail
      have blank : trimStartBy isBlank tail = [] := List.dropWhile_eq_nil_iff.2 ht
      refine ⟨tail, (afterStart?_eq_some_iff notLedBy_own).2 ⟨lead, hl, rfl⟩, ?_⟩
      rw [if_neg (not_any_head?_iff.2 hw), blank]
    | reasoned hl hb hw hg trimmed ht hn =>
      rename_i lead space gap text tail
      have dash : trimStartBy isBlank (space ++ '-' :: (gap ++ text ++ tail)) =
          '-' :: (gap ++ text ++ tail) := trimStartBy_lead hb (notLedBy_cons (by decide) _)
      refine ⟨_, (afterStart?_eq_some_iff notLedBy_own).2 ⟨lead, hl, rfl⟩, ?_⟩
      rw [if_neg (not_any_head?_iff.2 (hw.append (by decide) _)), dash]
      exact reason?_eq_some.2 ⟨gap, text, tail, hg, trimmed, ht, hn, rfl, rfl⟩

/-- Whether a directive with a list suppresses is decided by the list alone. -/
lemma generalDirective?_of_list {linters remark : List Char} (hl : AllBlank lead)
    (hs : ∀ c ∈ linters, isListed c = true) (hr : Remark remark) :
    generalDirective? (lead ++ "nolint:".toList ++ (linters ++ remark)) =
      if names linters then some "nolint" else none := by
  have start : afterStart? "nolint".toList
      (trimStartBy isBlank (lead ++ "nolint:".toList ++ (linters ++ remark))) =
        some (':' :: (linters ++ remark)) :=
    (afterStart?_eq_some_iff notLedBy_general).2 ⟨lead, hl, append_colon lead _⟩
  have colon : ¬ isRemark (':' :: (linters ++ remark)) = true := Bool.false_ne_true
  obtain ⟨gap, hg, taken, dropped⟩ := span_isListed hs hr
  rw [generalDirective?, start, Option.bind_some, if_neg colon]
  simp only [taken, names_append_blank linters hg, isRemark_iff.2 dropped, Bool.and_true]
  cases linters with
  | nil =>
    have none : names [] = false := by decide
    rw [none, Bool.and_false]
  | cons c linters => rfl

/-- The general directive is found exactly in the lines of its form. -/
lemma generalDirective?_eq_some : generalDirective? line = some reason ↔ General line reason := by
  constructor
  · intro h
    rw [generalDirective?, Option.bind_eq_some_iff] at h
    obtain ⟨rest, hs, h⟩ := h
    obtain ⟨lead, hl, rfl⟩ := (afterStart?_eq_some_iff notLedBy_general).1 hs
    split at h
    · rename_i hr
      cases h
      exact .bare hl (isRemark_iff.1 hr)
    · split at h
      · rename_i after _
        simp only at h
        split at h
        · rename_i hc
          cases h
          rw [Bool.and_eq_true, Bool.and_eq_true] at hc
          obtain ⟨⟨_, hr⟩, hn⟩ := hc
          have whole := General.listed hl (fun _ => List.mem_takeWhile_imp) (isRemark_iff.1 hr)
            (names_iff.1 hn)
          rwa [List.takeWhile_append_dropWhile, append_colon] at whole
        · cases h
      · cases h
  · intro h
    cases h with
    | bare hl hr =>
      rename_i lead remark
      rw [generalDirective?, (afterStart?_eq_some_iff notLedBy_general).2 ⟨lead, hl, rfl⟩,
        Option.bind_some, if_pos (isRemark_iff.2 hr)]
    | listed hl hs hr hc => rw [generalDirective?_of_list hl hs hr, if_pos (names_iff.2 hc)]

/-! Each directive is told by how the line begins. -/

/-- A line of the own form starts with the own directive as a word, blanks apart. -/
lemma Own.starts (h : Own line reason) :
    ∃ rest, trimStartBy isBlank line = "lostfield:ignore".toList ++ rest ∧ NotLedBy isWord rest := by
  cases h with
  | bare hl _ hw =>
    rw [List.append_assoc, trimStartBy_lead hl (notLedBy_own _)]
    exact ⟨_, rfl, hw⟩
  | reasoned hl _ hw _ _ _ _ =>
    rw [List.append_assoc, trimStartBy_lead hl (notLedBy_own _)]
    exact ⟨_, rfl, hw.append (by decide) _⟩

/-- A line with the general directive after blanks starts with it, blanks apart. -/
lemma starts_of_general (hl : AllBlank lead) (rest : List Char) :
    "nolint".toList <+: trimStartBy isBlank (lead ++ "nolint".toList ++ rest) := by
  rw [List.append_assoc, trimStartBy_lead hl (notLedBy_general rest)]
  exact List.prefix_append _ _

/-- A line of the general form starts with the general directive, blanks apart. -/
lemma General.starts (h : General line reason) : "nolint".toList <+: trimStartBy isBlank line := by
  cases h with
  | bare hl _ => exact starts_of_general hl _
  | listed hl _ _ _ =>
    rw [append_colon]
    exact starts_of_general hl _

/-- A line that starts with the general directive is none of the own form. -/
lemma ownDirective?_of_general (h : "nolint".toList <+: trimStartBy isBlank line) :
    ownDirective? line = none := by
  cases ho : ownDirective? line with
  | none => rfl
  | some reason =>
    obtain ⟨rest, own, _⟩ := (ownDirective?_eq_some.1 ho).starts
    obtain ⟨after, general⟩ := h
    have same : 'n' = 'l' := (List.cons.inj (general.trans own)).1
    exact absurd same (by decide)

end

/-- A line is read as a directive with a reason exactly if it is one. -/
lemma ofLine_eq_some {line reason : String} : ofLine line = some reason ↔ Directive line reason := by
  rw [ofLine, Option.or_eq_some_iff, ownDirective?_eq_some, generalDirective?_eq_some, Directive]
  constructor
  · rintro (h | ⟨_, h⟩)
    · exact .inl h
    · exact .inr h
  · rintro (h | h)
    · exact .inl h
    · exact .inr ⟨ownDirective?_of_general h.starts, h⟩

/-- The own directive with a reason after a dash is read with that reason. -/
lemma ofLine_of_reason {lead reason : String} (hl : AllBlank lead.toList) (hn : '\n' ∉ reason.toList)
    (hr : Trimmed reason.toList) : ofLine (lead ++ "lostfield:ignore - " ++ reason) = some reason := by
  have blank : AllBlank [' '] := by decide
  have noWord : NotLedBy isWord [' '] := by decide
  have noBreak : '\n' ∉ reason.toList ++ [] := by rwa [List.append_nil]
  have own := Own.reasoned hl blank noWord blank hr allBlank_nil noBreak
  rw [String.ofList_toList] at own
  refine ofLine_eq_some.2 (.inl ?_)
  have e : (lead ++ "lostfield:ignore - " ++ reason).toList = lead.toList ++ "lostfield:ignore".toList ++
      ([' '] ++ '-' :: ([' '] ++ reason.toList ++ [])) := by simp
  rw [e]
  exact own

/-- The general directive with a list of linters counts exactly if the list has this one or all of
    them. -/
lemma ofLine_of_linters {lead remark : String} (hl : AllBlank lead.toList) (hr : Remark remark.toList)
    (linters : List Linter) :
    ofLine (lead ++ "nolint:" ++ Linter.listed linters ++ remark) =
      if "lostfield" ∈ linters.map Linter.name ∨ "all" ∈ linters.map Linter.name then some "nolint"
      else none := by
  have e : (lead ++ "nolint:" ++ Linter.listed linters ++ remark).toList =
      lead.toList ++ "nolint:".toList ++ ((Linter.listed linters).toList ++ remark.toList) := by simp
  have starts := starts_of_general hl (':' :: ((Linter.listed linters).toList ++ remark.toList))
  rw [← append_colon] at starts
  rw [ofLine, e, ownDirective?_of_general starts, Option.none_or,
    generalDirective?_of_list hl (fun _ => Linter.isListed_of_mem_listed) hr]
  simp only [Linter.names_listed]

/-- The reason of a function is that of the first directive in its comment. -/
lemma suppression?_eq_some {decl : FuncDecl} {reason : String} :
    decl.suppression? = some reason ↔
      ∃ before line after, decl.doc = before ++ line :: after ∧ Directive line reason ∧
        ∀ other ∈ before, ∀ r, ¬ Directive other r := by
  have refused (line : String) : ofLine line = none ↔ ∀ r, ¬ Directive line r := by
    simp only [Option.eq_none_iff_forall_ne_some, ne_eq, ofLine_eq_some]
  rw [FuncDecl.suppression?, List.findSome?_eq_some_iff]
  simp only [ofLine_eq_some, refused]

/-- A line suppresses exactly if it is a directive, and the first directive of a doc comment decides. A
    reason of one line after the dash is kept as it stands, blanks around it apart. A list of linters
    suppresses exactly if it has this one or all of them, whatever blanks stand in it and whatever comment
    follows. A line that begins in neither way never suppresses. -/
theorem suppresses_exactly_directives :
    (∀ line reason, ofLine line = some reason ↔ Directive line reason) ∧
      (∀ (decl : FuncDecl) (reason : String), decl.suppression? = some reason ↔
        ∃ before line after, decl.doc = before ++ line :: after ∧ Directive line reason ∧
          ∀ other ∈ before, ∀ r, ¬ Directive other r) ∧
      (∀ lead reason : String, AllBlank lead.toList → '\n' ∉ reason.toList → Trimmed reason.toList →
        ofLine (lead ++ "lostfield:ignore - " ++ reason) = some reason) ∧
      (∀ (lead remark : String) (linters : List Linter), AllBlank lead.toList → Remark remark.toList →
        ofLine (lead ++ "nolint:" ++ Linter.listed linters ++ remark) =
          if "lostfield" ∈ linters.map Linter.name ∨ "all" ∈ linters.map Linter.name then some "nolint"
          else none) ∧
      ∀ line : String,
        (∀ rest, trimStartBy isBlank line.toList = "lostfield:ignore".toList ++ rest →
          ¬ NotLedBy isWord rest) →
        ¬ "nolint".toList <+: trimStartBy isBlank line.toList → ofLine line = none := by
  refine ⟨fun _ _ => ofLine_eq_some, fun _ _ => suppression?_eq_some, fun _ _ => ofLine_of_reason,
    fun _ _ linters hl hr => ofLine_of_linters hl hr linters, ?_⟩
  intro line notOwn notGeneral
  cases h : ofLine line with
  | none => rfl
  | some reason =>
    rcases ofLine_eq_some.1 h with own | general
    · obtain ⟨rest, e, hw⟩ := own.starts
      exact absurd hw (notOwn rest e)
    · exact absurd general.starts notGeneral

namespace Sample

/-- The list `errcheck, lostfield`. -/
def linters : List Linter :=
  [⟨"", "errcheck", "", by decide, by decide, by decide⟩,
   ⟨" ", "lostfield", "", by decide, by decide, by decide⟩]

/-- A function whose doc comment has a line that is no directive before two that are. -/
def documented : FuncDecl :=
  { name := "ToDTO"
    doc := ["see lostfield:ignore for details", "\tlostfield:ignore - Password stays", "nolint"] }

end Sample

/-- The line that only mentions the directive is passed over, and a list is read in spite of the comment
    behind it. -/
theorem suppresses_sample :
    Sample.documented.suppression? = some "Password stays" ∧
      ofLine "nolint:errcheck, lostfield // legacy" = some "nolint" ∧
      ofLine "nolint:errcheck // legacy" = none := by
  obtain ⟨exactly, first, withReason, withList, otherwise⟩ := suppresses_exactly_directives
  have mention : ofLine "see lostfield:ignore for details" = none := by
    apply otherwise
    · intro rest e
      have same : 's' = 'l' := (List.cons.inj e).1
      exact absurd same (by decide)
    · rintro ⟨rest, e⟩
      have same : 'n' = 's' := (List.cons.inj e).1
      exact absurd same (by decide)
  have stays : ofLine "\tlostfield:ignore - Password stays" = some "Password stays" :=
    withReason "\t" "Password stays" (by decide) (by decide) (by decide)
  refine ⟨(first _ _).2 ⟨["see lostfield:ignore for details"], _, ["nolint"], rfl,
    (exactly _ _).1 stays, ?_⟩, ?_, ?_⟩
  · intro other ho r hd
    rw [List.mem_singleton.1 ho, ← exactly, mention] at hd
    cases hd
  · exact withList "" " // legacy" Sample.linters (by decide) (by decide)
  · exact withList "" " // legacy" (Sample.linters.take 1) (by decide) (by decide)

end FieldAudit.Suppression
