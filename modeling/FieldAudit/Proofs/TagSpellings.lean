import Mathlib
import FieldAudit.Converter.Policy
import FieldAudit.Source.Grammar.Types
import FieldAudit.Types.Resolve

/-!
# Both spellings of a tag mean the same

A tag is written between back quotes as it is, or between double quotes with a backslash before each quote and
each backslash. Either way it is one token, and what is read from it is the text that was written.
-/

namespace FieldAudit

/-- An entry of the settings stands for an entry of a tag: with a colon for itself, without one for all
    with that key. -/
def Tag.Covers (entry tag : String) : Prop :=
  if ':' ∈ entry.toList then tag = entry else entry.toList ++ [':'] <+: tag.toList

/-- A field has a tag for an entry exactly if one of its tags covers the entry. -/
lemma FieldInfo.hasTag_iff_covers {field : FieldInfo} {entry : String} :
    field.hasTag entry = true ↔ ∃ tag ∈ field.tags, Tag.Covers entry tag := by
  unfold hasTag Tag.Covers
  by_cases colon : ':' ∈ entry.toList
  · simp only [List.contains_iff_mem, colon, if_true, decide_eq_true_eq, exists_eq_right]
  · simp only [List.contains_iff_mem, colon, if_false, List.any_eq_true, Text.startsWith_iff]
    rfl

namespace Source

open Grammar

/-- A text with a quote on either side. -/
def enclosed (quote : Char) (s : List Char) : List Char := quote :: s ++ [quote]

/-- The letters that stand after a backslash, and what they stand for. -/
def escapes : List (Char × Char) := [('"', '"'), ('\\', '\\'), ('n', '\n'), ('t', '\t')]

/-- A text, and what may stand for it between double quotes. Quotes and backslashes have to be escaped, line
    breaks and tabs may be. -/
inductive Escaped : List Char → List Char → Prop where
  | nil :
    Escaped [] []
  | plain {c : Char} {s body : List Char} :
    c ≠ '"' →
    c ≠ '\\' →
    Escaped s body →
    Escaped (c :: s) (c :: body)
  | escape {letter c : Char} {s body : List Char} :
    (letter, c) ∈ escapes →
    Escaped s body →
    Escaped (c :: s) ('\\' :: letter :: body)

/-- The literals for a text, with the kind of their token. -/
inductive Spells (s : List Char) : Kind → List Char → Prop where
  | raw :
    Char.ofNat 0x60 ∉ s →
    Spells s .raw (enclosed (Char.ofNat 0x60) s)
  | quoted {body : List Char} :
    Escaped s body →
    Spells s .quoted (enclosed '"' body)

/-- Every text can be written between double quotes on one row. -/
lemma exists_escaped (s : List Char) : ∃ body, Escaped s body ∧ '\n' ∉ body := by
  induction s with
  | nil => exact ⟨[], .nil, List.not_mem_nil⟩
  | cons c s ih =>
    obtain ⟨body, h, row⟩ := ih
    by_cases hc : ∃ letter, (letter, c) ∈ escapes
    · obtain ⟨letter, hl⟩ := hc
      refine ⟨_, .escape hl h, ?_⟩
      have ne : '\n' ≠ letter := (by decide : ∀ e ∈ escapes, '\n' ≠ e.1) _ hl
      simp [ne, row]
    · -- among the characters that are not escaped there are no quotes, backslashes and line breaks
      have other (letter d : Char) (hd : (letter, d) ∈ escapes) : c ≠ d := fun e => hc ⟨letter, e ▸ hd⟩
      refine ⟨_, .plain (other '"' _ (by decide)) (other '\\' _ (by decide)) h, ?_⟩
      simp [(other 'n' '\n' (by decide)).symm, row]

/-! ## Contents -/

/-- What stands between quotes is found without them. -/
lemma between?_enclosed (quote : Char) (s : List Char) :
    between? quote (enclosed quote s) = some s := by
  simp [between?, enclosed]

/-- Nothing is found between quotes of the other kind. -/
lemma between?_enclosed_ne {quote other : Char} (h : quote ≠ other) (s : List Char) :
    between? other (enclosed quote s) = none := by
  simp [between?, enclosed, h]

/-- A character that is no backslash stands for itself. -/
lemma unescape_plain {c : Char} (h : c ≠ '\\') (rest : List Char) :
    unescape (c :: rest) = c :: unescape rest := by
  rw [unescape]
  rintro _ _ rfl
  exact absurd rfl h

/-- An escape stands for its character. -/
lemma unescape_escape {letter c : Char} (h : (letter, c) ∈ escapes) (rest : List Char) :
    unescape ('\\' :: letter :: rest) = c :: unescape rest := by
  have all : ∀ e ∈ escapes, (if e.1 = 'n' then '\n' else if e.1 = 't' then '\t' else e.1) = e.2 := by
    decide
  rw [unescape, all _ h]

/-- Replacing the escapes gives back the text that was escaped. -/
lemma Escaped.unescape_eq {s body : List Char} (h : Escaped s body) : unescape body = s := by
  induction h with
  | nil => rfl
  | plain _ hb _ ih => rw [unescape_plain hb, ih]
  | escape hl _ ih => rw [unescape_escape hl, ih]

/-- The contents of a literal are the text that it spells. -/
lemma Spells.tagContents_eq {s literal : List Char} {kind : Kind} (h : Spells s kind literal) :
    tagContents literal = s := by
  cases h with
  | raw _ => simp only [tagContents, between?_enclosed]
  | quoted h =>
    simp only [tagContents, between?_enclosed_ne (show '"' ≠ Char.ofNat 0x60 by decide),
      between?_enclosed, h.unescape_eq]

/-! ## Tokens -/

/-- A raw literal goes to the next quote of its kind. -/
lemma rawLength_append {s : List Char} (h : Char.ofNat 0x60 ∉ s) (rest : List Glyph) :
    rawLength (s.map .char ++ .char (Char.ofNat 0x60) :: rest) = some (s.length + 1) := by
  induction s with
  | nil => rfl
  | cons c s ih =>
    obtain ⟨hc, hs⟩ := not_or.1 (mt List.mem_cons.2 h)
    have other : Glyph.char c ≠ .char (Char.ofNat 0x60) := fun e => hc (Glyph.char.inj e).symm
    rw [List.map_cons, List.cons_append, rawLength, if_neg other, ih hs]
    rfl

/-- A character that is not special adds one to the length of a quoted literal. -/
lemma quotedLength_plain {c : Char} (hq : c ≠ '"') (hn : c ≠ '\n') (hb : c ≠ '\\') (rest : List Glyph) :
    quotedLength (.char c :: rest) = (quotedLength rest).map (· + 1) := by
  rw [quotedLength]
  all_goals simp [hq, hn, hb]

/-- The letters of the escapes are none of those that a code point follows. -/
lemma quotedLength_escape {letter c : Char} (h : (letter, c) ∈ escapes) (rest : List Glyph) :
    quotedLength (.char '\\' :: .char letter :: rest) = (quotedLength rest).map (· + 2) := by
  obtain ⟨hx, hu, hU⟩ := (by decide : ∀ e ∈ escapes, e.1 ≠ 'x' ∧ e.1 ≠ 'u' ∧ e.1 ≠ 'U') _ h
  rw [quotedLength]
  all_goals simp [hx, hu, hU]

/-- An escaped text goes to the quote behind it. -/
lemma Escaped.quotedLength_append {s body : List Char} (h : Escaped s body) (row : '\n' ∉ body)
    (rest : List Glyph) :
    quotedLength (body.map .char ++ .char '"' :: rest) = some (body.length + 1) := by
  induction h with
  | nil => rfl
  | plain hq hb _ ih =>
    obtain ⟨hn, row⟩ := not_or.1 (mt List.mem_cons.2 row)
    rw [List.map_cons, List.cons_append, quotedLength_plain hq (Ne.symm hn) hb, ih row]
    rfl
  | escape hl _ ih =>
    obtain ⟨_, row⟩ := not_or.1 (mt List.mem_cons.2 row)
    obtain ⟨_, row⟩ := not_or.1 (mt List.mem_cons.2 row)
    rw [List.map_cons, List.map_cons, List.cons_append, List.cons_append, quotedLength_escape hl, ih row]
    rfl

/-- A literal before other text is its quote, its inside, its quote and the text. -/
lemma map_enclosed_append (quote : Char) (s : List Char) (rest : List Glyph) :
    (enclosed quote s).map .char ++ rest = .char quote :: (s.map .char ++ .char quote :: rest) := by
  simp [enclosed]

/-- Quotes add two to the length. -/
lemma length_enclosed (quote : Char) (s : List Char) : (enclosed quote s).length = s.length + 2 := by
  simp [enclosed]

/-- A literal is cut off as a token of its kind, whatever follows. -/
lemma Spells.tokenLength?_append {s literal : List Char} {kind : Kind} (h : Spells s kind literal)
    (row : kind = .quoted → '\n' ∉ literal) (rest : List Glyph) :
    tokenLength? (literal.map .char ++ rest) = some (kind, literal.length) := by
  cases h with
  | raw h =>
    rw [map_enclosed_append, length_enclosed, tokenLength?, if_neg (by decide), if_neg (by decide),
      if_pos rfl, rawLength_append h]
    rfl
  | quoted h =>
    have inner : '\n' ∉ _ := fun hm => row rfl (List.mem_cons_of_mem _ (List.mem_append_left _ hm))
    rw [map_enclosed_append, length_enclosed, tokenLength?, if_neg (by decide), if_pos rfl,
      h.quotedLength_append inner]
    rfl

/-- Characters that were read are turned back into their text. -/
lemma text_map_char (s : List Char) : text (s.map .char) = .ofList s := by
  have all : (s.map Glyph.char).mapM Glyph.char? = some s := by
    induction s with
    | nil => rfl
    | cons c s ih => simp [List.mapM_cons, ih, Glyph.char?]
  rw [text, all]

/-- No comment begins with a character other than a slash. -/
lemma commentLength?_char {c : Char} (slash : c ≠ '/') (rest : List Glyph) :
    commentLength? (.char c :: rest) = none := by
  unfold commentLength?
  split
  · rename_i e
    exact absurd (Glyph.char.inj (List.cons.inj e).1) slash
  · rename_i e
    exact absurd (Glyph.char.inj (List.cons.inj e).1) slash
  · rfl

/-- The token of some characters at a place, after what is known of it. -/
def Token.cut (pending : Token) (kind : Kind) (own : List Char) (place : Position) : Token :=
  { pending with kind, text := .ofList own, span := ⟨place, advanceAll place (own.map .char)⟩ }

/-- A token is cut off as a whole, and what follows it is cut by itself. -/
lemma tokensFrom_token {c : Char} {cs : List Char} {kind : Kind} {gs : List Glyph}
    (space : (Glyph.char c).isSpace = false) (slash : c ≠ '/')
    (length : tokenLength? ((c :: cs).map .char ++ gs) = some (kind, (c :: cs).length))
    (place : Position) (pending : Token) :
    tokensFrom place pending ((c :: cs).map .char ++ gs) =
      (tokensFrom (pending.cut kind (c :: cs) place).span.stop
        { before := (pending.cut kind (c :: cs) place).span.stop } gs).map
        (pending.cut kind (c :: cs) place :: ·) := by
  have comment := commentLength?_char slash (cs.map .char ++ gs)
  rw [List.map_cons, List.cons_append] at length ⊢
  rw [tokensFrom]
  simp only [space, comment, length]
  simp [Token.cut, ← text_map_char]

/-- A literal is the first token of a text that it begins. -/
lemma Spells.tokensFrom_append {s literal : List Char} {kind : Kind} (h : Spells s kind literal)
    (row : kind = .quoted → '\n' ∉ literal) (place : Position) (pending : Token) (gs : List Glyph) :
    tokensFrom place pending (literal.map .char ++ gs) =
      (tokensFrom (pending.cut kind literal place).span.stop
        { before := (pending.cut kind literal place).span.stop } gs).map
        (pending.cut kind literal place :: ·) := by
  have length := h.tokenLength?_append row gs
  cases h with
  | raw _ => exact tokensFrom_token rfl (by decide) length place pending
  | quoted _ => exact tokensFrom_token rfl (by decide) length place pending

/-! ## Fields -/

open Reader

/-- Reads the tag of fields that are read before it. -/
def thenTag (untagged : Reader (List (StructField TypeExpr))) : Reader (List (StructField TypeExpr)) := do
  let fields ← untagged
  let tag ← tag?
  return fields.map ({ · with tag })

/-- A literal in the same row is read as the tag, and anything else is left. -/
lemma tag?_cons (t : Token) (rest : List Token) :
    tag? (t :: rest) = some
      (if !t.newline && (t.kind == .quoted || t.kind == .raw) then
        (some (.ofList (tagContents t.text.toList)), rest)
      else (none, t :: rest)) := by
  have first : tag? (t :: rest) =
      (if !t.newline && (t.kind == .quoted || t.kind == .raw) then do
        let _ ← take
        return some (.ofList (tagContents t.text.toList))
      else return none : Reader (Option String)) (t :: rest) := rfl
  rw [first]
  split <;> rfl

/-- What is read before a tag may be read in steps. -/
lemma thenTag_bind {α : Type} (first : Reader α) (untagged : α → Reader (List (StructField TypeExpr))) :
    thenTag (first >>= untagged) = first >>= fun a => thenTag (untagged a) := by
  simp only [thenTag, bind_assoc]

/-- The tag is read behind the fields, and given to all of them. -/
lemma thenTag_apply (untagged : Reader (List (StructField TypeExpr))) (tokens : List Token) :
    thenTag untagged tokens = (untagged tokens).bind fun read =>
      (tag? read.2).bind fun tag => some (read.1.map ({ · with tag := tag.1 }), tag.2) := rfl

/-- Reading a tag never fails, so it does not matter whether it is read before or after a choice. -/
lemma thenTag_orTry (a b : Reader (List (StructField TypeExpr))) :
    thenTag (orTry a b) = orTry (thenTag a) (thenTag b) := by
  funext tokens
  simp only [orTry, thenTag_apply]
  cases a tokens with
  | none => rfl
  | some read =>
    -- at the end of the file there is no tag, and before a token there may be one
    obtain ⟨fields, _ | ⟨t, rest⟩⟩ := read
    · rfl
    · simp only [Option.some_or, Option.bind_some, tag?_cons]

namespace Grammar

variable (g : Grammar)

/-- An embedded field without its tag. -/
def untaggedEmbedded (pointer : Bool) : Reader (List (StructField TypeExpr)) := do
  let first ← word
  let type ← g.namedType .statement first.text
  return [{ name := embeddedName type, embedded := true
            type := if pointer then .pointer type else type }]

/-- Fields that are declared by name, without their tag. -/
def untaggedNamed : Reader (List (StructField TypeExpr)) := do
  let names ← commaSep .statement word
  let type ← g.type .statement
  return names.map fun name => { name := name.text, type }

/-- A field of list type without its tag. -/
def untaggedList : Reader (List (StructField TypeExpr)) := do
  let name ← word
  expect "["
  let type ←
    if ← accept "]" then pure (TypeExpr.slice (← g.type .statement))
    else do
      let _ ← g.value .inner
      expect "]"
      guard !(← peek).newline
      pure (TypeExpr.array (← g.type .statement))
  return [{ name := name.text, type }]

/-- A field declaration without its tag. -/
def untaggedEntry : Reader (List (StructField TypeExpr)) := do
  if ← accept "*" then g.untaggedEmbedded true
  else
    let second ← peekSecond
    if second.newline || second.kind == .quoted || second.kind == .raw
        || [".", ";", "\x7d"].any second.isSymbol then g.untaggedEmbedded false
    else if second.isSymbol "[" then orTry g.untaggedList (g.untaggedEmbedded false)
    else g.untaggedNamed

/-- An embedded field is read without its tag and then with it. -/
lemma embeddedField_eq (pointer : Bool) : g.embeddedField pointer = thenTag (g.untaggedEmbedded pointer) := by
  simp only [embeddedField, thenTag, untaggedEmbedded, bind_assoc, pure_bind, List.map_cons, List.map_nil]

/-- Named fields are read without their tag and then with it. -/
lemma namedFields_eq : g.namedFields = thenTag g.untaggedNamed := by
  simp only [namedFields, thenTag, untaggedNamed, bind_assoc, pure_bind, List.map_map]
  rfl

/-- A list of fields is read without its tag and then with it. -/
lemma listField_eq : g.listField = thenTag g.untaggedList := by
  simp only [listField, thenTag, untaggedList, bind_assoc, pure_bind]
  refine bind_congr fun name => bind_congr fun _ => bind_congr fun slice => ?_
  split <;> simp only [bind_assoc, pure_bind, List.map_cons, List.map_nil]

/-- The entry of a struct is read without its tag and then with it. -/
lemma fieldEntry_eq : g.fieldEntry = thenTag g.untaggedEntry := by
  rw [fieldEntry, untaggedEntry, thenTag_bind]
  refine bind_congr fun pointer => ?_
  -- the forms of a declaration in their order: by pointer, embedded, of list type, by name
  split
  · exact g.embeddedField_eq true
  · rw [thenTag_bind]
    refine bind_congr fun second => ?_
    split
    · exact g.embeddedField_eq false
    · split
      · rw [thenTag_orTry, g.listField_eq, g.embeddedField_eq]
      · exact g.namedFields_eq

/-- A literal behind the fields gives them the text that it spells as their tag. -/
lemma fieldEntry_of_spells {g : Grammar} {s literal : List Char} {kind : Kind} (h : Spells s kind literal)
    {tokens rest : List Token} {fields : List (StructField TypeExpr)} {t : Token}
    (read : g.untaggedEntry tokens = some (fields, t :: rest)) (hk : t.kind = kind)
    (ht : t.text = .ofList literal) (row : t.newline = false) :
    g.fieldEntry tokens = some (fields.map ({ · with tag := some (.ofList s) }), rest) := by
  have isTag : (!t.newline && (t.kind == .quoted || t.kind == .raw)) = true := by
    rw [row, hk]
    cases h <;> rfl
  rw [fieldEntry_eq, thenTag_apply, read, Option.bind_some, tag?_cons, if_pos isTag, ht,
    String.toList_ofList, h.tagContents_eq, Option.bind_some]

end Grammar

/-! ## Both spellings -/

/-- Let a text have no back quote. It is read from the literal between back quotes and from each literal between
    double quotes, and there is one of the latter on a single row. Either literal is cut into one token wherever
    it stands. Fields before either one have the text as their tag, so that the entries they are tagged with, and
    the settings that exempt them by a tag, depend on the text alone. -/
theorem tag_spellings_agree {s : List Char} (plain : Char.ofNat 0x60 ∉ s) :
    tagContents (enclosed (Char.ofNat 0x60) s) = s ∧
    (∀ body, Escaped s body → tagContents (enclosed '"' body) = s) ∧
    (∃ body, Escaped s body ∧ '\n' ∉ body) ∧
    ∀ kind literal, Spells s kind literal →
      ((kind = .quoted → '\n' ∉ literal) → ∀ place pending gs,
        ∃ t : Token, t.kind = kind ∧ t.text = .ofList literal ∧ t.newline = pending.newline ∧
          tokensFrom place pending (literal.map .char ++ gs) =
            (tokensFrom t.span.stop { before := t.span.stop } gs).map (t :: ·)) ∧
      ∀ (g : Grammar) (tokens rest : List Token) (fields : List (StructField TypeExpr)) (t : Token),
        g.untaggedEntry tokens = some (fields, t :: rest) →
        t.kind = kind → t.text = .ofList literal → t.newline = false →
        ∃ tagged, g.fieldEntry tokens = some (tagged, rest) ∧
          tagged = fields.map ({ · with tag := some (.ofList s) }) ∧
          ∀ (scope : Scope), ∀ field ∈ tagged,
            (scope.resolveField field).tags = Tag.parse (.ofList s) ∧
            ∀ (settings : Settings) (info : FieldInfo), info.tags = (scope.resolveField field).tags →
              (settings.ignoreTags.any info.hasTag = true ↔
                ∃ entry ∈ settings.ignoreTags, ∃ tag ∈ Tag.parse (.ofList s), Tag.Covers entry tag) := by
  refine ⟨(Spells.raw plain).tagContents_eq, fun body h => (Spells.quoted h).tagContents_eq,
    exists_escaped s, ?_⟩
  intro kind literal h
  constructor
  · intro row place pending gs
    exact ⟨pending.cut kind literal place, rfl, rfl, rfl, h.tokensFrom_append row place pending gs⟩
  · intro g tokens rest fields t read hk ht row
    refine ⟨_, fieldEntry_of_spells h read hk ht row, rfl, ?_⟩
    intro scope field hf
    obtain ⟨f, _, rfl⟩ := List.mem_map.1 hf
    have tags : (scope.resolveField { f with tag := some (.ofList s) }).tags = Tag.parse (.ofList s) := by
      rw [Scope.resolveField]
      rfl
    refine ⟨tags, ?_⟩
    intro settings info hi
    simp only [List.any_eq_true, FieldInfo.hasTag_iff_covers, hi.trans tags]

namespace Sample

/-- A tag whose value is a backslash, which the tag itself escapes. -/
def backslashTag : List Char := "x:\"\\\\\"".toList

/-- The tag as it stands between double quotes. -/
def backslashBody : List Char := "x:\\\"\\\\\\\\\\\"".toList

/-- The sample with backslashes is escaped as written. -/
lemma escaped_backslashTag : Escaped backslashTag backslashBody :=
  .plain (by decide) (by decide) <| .plain (by decide) (by decide) <| .escape (by decide) <|
    .escape (by decide) <| .escape (by decide) <| .escape (by decide) .nil

/-- The tokens of an embedded field with a tag. -/
def taggedBase (kind : Kind) (literal : List Char) : List Token :=
  [{ kind := .word, text := "Base" }, { kind, text := .ofList literal }]

/-- The field `Base` with this tag. -/
def base (tag : Option String) : StructField TypeExpr :=
  { name := "Base", embedded := true, type := .named none "Base", tag }

end Sample

/-- The two backslashes before the last quote do not keep it inside. Between double quotes the literal is cut
    where it ends, and the same field is read as between back quotes. -/
theorem tag_spellings_sample :
    tagContents (enclosed '"' Sample.backslashBody) = Sample.backslashTag ∧
      (∃ t : Token, t.kind = .quoted ∧ t.text = .ofList (enclosed '"' Sample.backslashBody) ∧
        tokensFrom {} {} ((enclosed '"' Sample.backslashBody).map .char ++ [.char '\n']) =
          (tokensFrom t.span.stop { before := t.span.stop } [.char '\n']).map (t :: ·)) ∧
      Grammar.nothing.fieldEntry
          (Sample.taggedBase .raw (enclosed (Char.ofNat 0x60) Sample.backslashTag)) =
        some ([Sample.base (some (.ofList Sample.backslashTag))], []) ∧
      Grammar.nothing.fieldEntry (Sample.taggedBase .quoted (enclosed '"' Sample.backslashBody)) =
        some ([Sample.base (some (.ofList Sample.backslashTag))], []) := by
  have plain : Char.ofNat 0x60 ∉ Sample.backslashTag := by decide
  have quoted := Spells.quoted Sample.escaped_backslashTag
  obtain ⟨_, contents, _, agree⟩ := tag_spellings_agree plain
  obtain ⟨t, kind, text, _, cut⟩ := (agree _ _ quoted).1 (fun _ => by decide) {} {} [.char '\n']
  have read {kind : Kind} {literal : List Char} (h : Spells Sample.backslashTag kind literal) :
      Grammar.nothing.fieldEntry (Sample.taggedBase kind literal) =
        some ([Sample.base (some (.ofList Sample.backslashTag))], []) := by
    have untagged : Grammar.nothing.untaggedEntry (Sample.taggedBase kind literal) =
        some ([Sample.base none], [{ kind, text := .ofList literal }]) := by
      cases h <;> rfl
    obtain ⟨_, tagged, rfl, _⟩ := (agree kind literal h).2 _ _ _ _ _ untagged rfl rfl rfl
    exact tagged
  exact ⟨contents _ Sample.escaped_backslashTag, ⟨t, kind, text, cut⟩, read (.raw plain), read quoted⟩

end Source

end FieldAudit
