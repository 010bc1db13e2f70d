import Mathlib
import FieldAudit.Converter.Policy
import FieldAudit.Tag

/-!
# Tags are read as they are written

A tag that is written from pairs of a key and a value is read back as the set of these pairs, and from
any other text nothing is read but such pairs that stand in it. No key holds a colon, so an entry of the
settings that names a key exempts exactly the fields with a pair of that key.
-/

namespace FieldAudit.Tag

/-- A text that may stand before the colon of an entry. -/
def IsKey (key : List Char) : Prop := key ≠ [] ∧ ∀ c ∈ key, isKeyChar c = true

/-- A text that may stand between the quotes of an entry: every quote and every backslash in it is part
    of an escape, which is a backslash before any character but a line break. -/
inductive IsValue : List Char → Prop where
  | nil :
    IsValue []
  | plain {c : Char} {value : List Char} :
    c ≠ '"' →
    c ≠ '\\' →
    IsValue value →
    IsValue (c :: value)
  | escape {c : Char} {value : List Char} :
    c ≠ '\n' →
    IsValue value →
    IsValue ('\\' :: c :: value)

/-- A key and a value that may be written as an entry. -/
structure Pair where
  key : List Char
  value : List Char
  isKey : IsKey key
  isValue : IsValue value

/-- The entry of a pair, `key:"value"`. -/
def Pair.text (p : Pair) : String := .ofList (entry p.key p.value)

/-- The entries of pairs with single spaces between them. -/
def written (pairs : List Pair) : String := " ".intercalate (pairs.map Pair.text)

/-! ## One entry -/

/-- A value is read up to the quote behind it. -/
lemma readValue_append {value : List Char} (h : IsValue value) (rest : List Char) :
    readValue (value ++ '"' :: rest) = some (value, rest) := by
  induction h with
  | nil => rfl
  | plain hq hb _ ih =>
    rw [List.cons_append, readValue, if_neg hb, ih]
    · rfl
    · exact hq
    · rintro _ _ rfl
      exact absurd rfl hb
  | escape hn _ ih =>
    rw [List.cons_append, List.cons_append, readValue, if_neg hn, ih]
    rfl

/-- A value and a rest are read exactly from the value, a quote and the rest. -/
lemma readValue_eq_some {s value rest : List Char} :
    readValue s = some (value, rest) ↔ IsValue value ∧ s = value ++ '"' :: rest := by
  constructor
  · intro h
    fun_induction readValue s generalizing value rest with
    | case1 => cases h
    | case2 after =>
      cases h
      exact ⟨.nil, rfl⟩
    | case3 after => cases h
    | case4 c after hn ih =>
      obtain ⟨⟨value, rest⟩, hv, e⟩ := Option.map_eq_some_iff.1 h
      cases e
      obtain ⟨isValue, rfl⟩ := ih hv
      exact ⟨.escape hn isValue, rfl⟩
    | case5 after => cases h
    | case6 c after hq _ hb ih =>
      obtain ⟨⟨value, rest⟩, hv, e⟩ := Option.map_eq_some_iff.1 h
      cases e
      obtain ⟨isValue, rfl⟩ := ih hv
      exact ⟨.plain hq hb isValue, rfl⟩
  · rintro ⟨isValue, rfl⟩
    exact readValue_append isValue rest

instance : DecidablePred IsKey := fun key =>
  decidable_of_iff (key ≠ [] ∧ key.all isKeyChar = true) (by rw [List.all_eq_true, IsKey])

instance : DecidablePred IsValue := fun value =>
  decidable_of_iff (readValue (value ++ ['"']) = some (value, [])) (by simp [readValue_eq_some])

/-- An entry is read exactly from a colon, the quoted value and the rest. -/
lemma readEntry?_eq_some {s value rest : List Char} :
    readEntry? s = some (value, rest) ↔
      IsValue value ∧ s = ':' :: '"' :: (value ++ '"' :: rest) := by
  constructor
  · intro h
    unfold readEntry? at h
    split at h
    · obtain ⟨isValue, rfl⟩ := readValue_eq_some.1 h
      exact ⟨isValue, rfl⟩
    · cases h
  · rintro ⟨isValue, rfl⟩
    exact readValue_append isValue rest

/-- An entry before other text is its key, a colon, the quoted value and the text. -/
lemma entry_append (key value rest : List Char) :
    entry key value ++ rest = key ++ ':' :: '"' :: (value ++ '"' :: rest) := by
  simp [entry]

/-- A colon may not stand in a key. -/
lemma not_isKeyChar_colon : ¬ isKeyChar ':' = true := by decide

/-- No colon stands in a key. -/
lemma IsKey.colon_notMem {key : List Char} (h : IsKey key) : ':' ∉ key :=
  fun hm => not_isKeyChar_colon (h.2 ':' hm)

/-! ## All entries of a text -/

/-- The empty text has no entries. -/
lemma entries_nil : entries [] = [] := by
  rw [entries]

/-- A character that may not stand in a key is skipped. -/
lemma entries_cons_of_not_key {c : Char} (h : ¬ isKeyChar c = true) (rest : List Char) :
    entries (c :: rest) = entries rest := by
  rw [entries, if_neg h]

/-- An entry is read as a whole, whatever follows it: its key cannot go on, and its value ends at the
    first quote that is not escaped. -/
lemma entries_entry_append {key value : List Char} (hk : IsKey key) (hv : IsValue value)
    (rest : List Char) :
    entries (entry key value ++ rest) = entry key value :: entries rest := by
  obtain ⟨ne, all⟩ := hk
  cases key with
  | nil => exact absurd rfl ne
  | cons c cs =>
    have head : isKeyChar c = true := all c List.mem_cons_self
    have tail : ∀ d ∈ cs, isKeyChar d = true := fun d hd => all d (List.mem_cons_of_mem _ hd)
    have taken : (cs ++ ':' :: '"' :: (value ++ '"' :: rest)).takeWhile isKeyChar = cs := by
      rw [List.takeWhile_append_of_pos tail, List.takeWhile_cons_of_neg not_isKeyChar_colon,
        List.append_nil]
    have dropped : (cs ++ ':' :: '"' :: (value ++ '"' :: rest)).dropWhile isKeyChar =
        ':' :: '"' :: (value ++ '"' :: rest) := by
      rw [List.dropWhile_append_of_pos tail, List.dropWhile_cons_of_neg not_isKeyChar_colon]
    have read := readEntry?_eq_some.2 ⟨hv, dropped⟩
    rw [entry_append, List.cons_append, entries, if_pos head]
    split
    · rename_i value' after h
      rw [read] at h
      cases h
      rw [taken]
    · rename_i h
      rw [read] at h
      cases h

/-- What is read as an entry stands in the text and has the form of one. -/
lemma exists_pair_of_mem_entries {s e : List Char} (h : e ∈ entries s) :
    ∃ p : Pair, e = entry p.key p.value ∧ e <:+: s := by
  fun_induction entries s with
  | case1 => cases h
  | case2 c cs hc value after hr ih =>
    obtain ⟨isValue, dropped⟩ := readEntry?_eq_some.1 hr
    have isKey : IsKey (c :: cs.takeWhile isKeyChar) := by
      refine ⟨List.cons_ne_nil _ _, fun d hd => ?_⟩
      rcases List.mem_cons.1 hd with rfl | hd
      · exact hc
      · exact List.mem_takeWhile_imp hd
    have cut : c :: cs = entry (c :: cs.takeWhile isKeyChar) value ++ after := by
      rw [entry_append, ← dropped, List.cons_append, List.takeWhile_append_dropWhile]
    rcases List.mem_cons.1 h with rfl | h
    · refine ⟨⟨_, _, isKey, isValue⟩, rfl, ?_⟩
      rw [cut]
      exact (List.prefix_append _ _).isInfix
    · obtain ⟨p, e, inside⟩ := ih h
      refine ⟨p, e, inside.trans ?_⟩
      rw [cut]
      exact (List.suffix_append _ _).isInfix
  | case3 c cs hc hr ih =>
    obtain ⟨p, e, inside⟩ := ih h
    have dropped : cs.dropWhile isKeyChar <:+ c :: cs :=
      (List.dropWhile_suffix isKeyChar).trans (List.suffix_cons c cs)
    exact ⟨p, e, inside.trans dropped.isInfix⟩
  | case4 c cs hc ih =>
    obtain ⟨p, e, inside⟩ := ih h
    exact ⟨p, e, inside.trans (List.suffix_cons c cs).isInfix⟩

/-- The entries of a written tag are those of its pairs. -/
lemma entries_written (pairs : List Pair) :
    entries (written pairs).toList = pairs.map fun p => entry p.key p.value := by
  induction pairs with
  | nil => exact entries_nil
  | cons p pairs ih =>
    cases pairs with
    | nil =>
      have alone : (written [p]).toList = entry p.key p.value ++ [] := by
        simp [written, Pair.text]
      rw [alone, entries_entry_append p.isKey p.isValue, entries_nil]
      rfl
    | cons q pairs =>
      have first : (written (p :: q :: pairs)).toList =
          entry p.key p.value ++ ' ' :: (written (q :: pairs)).toList := by
        simp [written, Pair.text, String.intercalate_cons_cons]
      rw [first, entries_entry_append p.isKey p.isValue, entries_cons_of_not_key (by decide), ih]
      rfl

/-! ## Sets of entries -/

/-- The tags of a text are its entries. -/
lemma mem_parse {raw tag : String} : tag ∈ parse raw ↔ tag.toList ∈ entries raw.toList := by
  rw [parse, OrderedSet.mem_ofList, List.mem_map]
  constructor
  · rintro ⟨e, he, rfl⟩
    rwa [String.toList_ofList]
  · intro h
    exact ⟨tag.toList, h, String.ofList_toList⟩

/-- A written tag is read as its pairs. -/
lemma parse_written (pairs : List Pair) :
    parse (written pairs) = .ofList (pairs.map Pair.text) := by
  rw [parse, entries_written, List.map_map]
  rfl

/-- Every tag that is read is the entry of a pair, and it stands in the text. -/
lemma exists_pair_of_mem_parse {raw tag : String} (h : tag ∈ parse raw) :
    ∃ p : Pair, tag = p.text ∧ tag.toList <:+: raw.toList := by
  obtain ⟨p, e, inside⟩ := exists_pair_of_mem_entries (mem_parse.1 h)
  refine ⟨p, ?_, inside⟩
  rw [Pair.text, ← e, String.ofList_toList]

/-- The entry of a pair is read as the only tag. -/
lemma Pair.parse_text (p : Pair) : parse p.text = {p.text} := by
  have alone : p.text = written [p] := by simp [written]
  rw [alone, parse_written, ← alone]
  rfl

/-- The beginning of an entry up to its first colon is its key. -/
lemma Pair.key_eq_iff (p : Pair) {name : String} (h : ':' ∉ name.toList) :
    p.key = name.toList ↔ Text.startsWith p.text.toList (name.toList ++ [':']) = true := by
  rw [Text.startsWith_iff, text, String.toList_ofList, entry]
  constructor
  · intro e
    rw [← e]
    exact ⟨'"' :: p.value ++ ['"'], by simp⟩
  · rintro ⟨rest, e⟩
    have upTo (a b : List Char) (ha : ':' ∉ a) : (a ++ ':' :: b).takeWhile (· != ':') = a := by
      rw [List.takeWhile_append_of_pos, List.takeWhile_cons_of_neg, List.append_nil]
      · simp
      · intro c hc
        exact bne_iff_ne.2 fun hcol => ha (hcol ▸ hc)
    have cut := congrArg (List.takeWhile (· != ':')) e
    rw [List.append_assoc, List.append_assoc] at cut
    rw [← upTo p.key _ p.isKey.colon_notMem, ← upTo name.toList rest h]
    exact cut.symm

/-- A field has a tag of a name exactly if a pair with this key is read from its text. -/
lemma hasTag_iff {field : FieldInfo} {raw name : String} (ht : field.tags = parse raw)
    (hc : ':' ∉ name.toList) :
    field.hasTag name = true ↔ ∃ p : Pair, p.text ∈ parse raw ∧ p.key = name.toList := by
  have plain : ¬ name.toList.contains ':' = true := by simpa using hc
  rw [FieldInfo.hasTag, if_neg plain, ht, List.any_eq_true]
  constructor
  · rintro ⟨tag, hm, hs⟩
    obtain ⟨p, rfl, _⟩ := exists_pair_of_mem_parse hm
    exact ⟨p, hm, (p.key_eq_iff hc).2 hs⟩
  · rintro ⟨p, hm, hk⟩
    exact ⟨p.text, hm, (p.key_eq_iff hc).1 hk⟩

/-- Whatever pairs a tag is written from, the set of them is read. Whatever text is read, each entry is
    that of a pair, stands in the text, and read by itself gives itself alone. And for a name without a
    colon in the settings, the tags of a field are exempted by it exactly if a pair with that key is read
    from them. -/
theorem tags_read_as_written :
    (∀ pairs : List Pair, parse (written pairs) = .ofList (pairs.map Pair.text)) ∧
      (∀ raw tag, tag ∈ parse raw →
        (∃ p : Pair, tag = p.text) ∧ tag.toList <:+: raw.toList ∧ parse tag = {tag}) ∧
      ∀ (field : FieldInfo) (raw name : String), field.tags = parse raw → ':' ∉ name.toList →
        (field.hasTag name = true ↔ ∃ p : Pair, p.text ∈ parse raw ∧ p.key = name.toList) := by
  refine ⟨parse_written, ?_, fun field raw name => hasTag_iff⟩
  intro raw tag h
  obtain ⟨p, rfl, inside⟩ := exists_pair_of_mem_parse h
  exact ⟨⟨p, rfl⟩, inside, p.parse_text⟩

namespace Sample

/-- Two pairs, one with a comma in its value and one with escaped quotes. -/
def pairs : List Pair :=
  [⟨"json".toList, "id,omitempty".toList, by decide, by decide⟩,
   ⟨"lostfield".toList, "\\\"x\\\"".toList, by decide, by decide⟩]

/-- A field with these pairs as its tag. -/
def tagged : FieldInfo :=
  { name := "ID", exported := true, type := .basic "string", tags := parse (written pairs) }

end Sample

/-- A key is found and a beginning of one is not; the quotes inside of a value do not end it. -/
theorem tags_read_sample :
    parse (written Sample.pairs) =
        .ofList ["json:\"id,omitempty\"", "lostfield:\"\\\"x\\\"\""] ∧
      parse "lostfield:\"\\\"x\\\"\"" = {"lostfield:\"\\\"x\\\"\""} ∧
      Sample.tagged.hasTag "lostfield" = true ∧ Sample.tagged.hasTag "lost" = false := by
  obtain ⟨read, single, byKey⟩ := tags_read_as_written
  have tags : parse (written Sample.pairs) =
      .ofList ["json:\"id,omitempty\"", "lostfield:\"\\\"x\\\"\""] := read Sample.pairs
  have found : "lostfield:\"\\\"x\\\"\"" ∈ parse (written Sample.pairs) := by
    rw [tags]
    decide
  have keyed (name : String) := byKey Sample.tagged (written Sample.pairs) name rfl
  refine ⟨tags, (single _ _ found).2.2, ?_, ?_⟩
  · exact (keyed "lostfield" (by decide)).2 ⟨Sample.pairs[1], found, rfl⟩
  · rw [← Bool.not_eq_true, keyed "lost" (by decide)]
    rintro ⟨p, hm, hk⟩
    have starts := (p.key_eq_iff (by decide)).1 hk
    rw [tags, OrderedSet.mem_ofList] at hm
    rcases List.mem_pair.1 hm with e | e
    · rw [e] at starts
      exact absurd starts (by decide)
    · rw [e] at starts
      exact absurd starts (by decide)

end FieldAudit.Tag
