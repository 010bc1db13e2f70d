import FieldAudit.OrderedSet

/-!
# Struct tags

A tag is a text with entries `key:"value"`. Entries may stand anywhere in it; a value runs to the
next quote that is not escaped.
-/

namespace FieldAudit.Tag

/-- Whether a character may stand in the key of an entry. -/
def isKeyChar (c : Char) : Bool := c.isAlphanum || c == '_' || c == '.' || c == '-'

/-- An entry as it is written. -/
def entry (key value : List Char) : List Char := key ++ ':' :: '"' :: value ++ ['"']

/-- The value before the closing quote, and the text after it. A backslash keeps the next character,
    which must not be a line break, inside the value. -/
def readValue : List Char → Option (List Char × List Char)
  | [] => none
  | '"' :: rest => some ([], rest)
  | '\\' :: c :: rest =>
    if c = '\n' then none else (readValue rest).map fun (value, rest) => ('\\' :: c :: value, rest)
  | c :: rest =>
    if c = '\\' then none else (readValue rest).map fun (value, rest) => (c :: value, rest)

/-- Reading a value consumes at least one character. -/
theorem length_readValue {s value rest : List Char} (h : readValue s = some (value, rest)) :
    rest.length < s.length := by
  fun_induction readValue s generalizing value rest
  all_goals simp only [Option.map_eq_some_iff, Prod.mk.injEq, Option.some.injEq, reduceCtorEq] at h
  · obtain ⟨_, rfl⟩ := h
    simp
  · rename_i ih
    obtain ⟨⟨v, r⟩, hv, _, rfl⟩ := h
    have := ih hv
    simp only [List.length_cons]; omega
  · rename_i ih
    obtain ⟨⟨v, r⟩, hv, _, rfl⟩ := h
    have := ih hv
    simp only [List.length_cons]; omega

/-- The value after the colon and the opening quote of an entry, and the text after the entry. -/
def readEntry? : List Char → Option (List Char × List Char)
  | ':' :: '"' :: rest => readValue rest
  | _ => none

/-- Reading an entry consumes at least one character, which is why parsing a tag ends. -/
theorem length_readEntry? {s value rest : List Char} (h : readEntry? s = some (value, rest)) :
    rest.length < s.length := by
  unfold readEntry? at h
  split at h
  · have := length_readValue h
    simp; omega
  · simp at h

/-- The entries of a tag in the order in which they stand. -/
def entries (s : List Char) : List (List Char) :=
  match s with
  | [] => []
  | c :: cs =>
    if isKeyChar c then
      match _h : readEntry? (cs.dropWhile isKeyChar) with
      | some (value, after) => entry (c :: cs.takeWhile isKeyChar) value :: entries after
      | none => entries (cs.dropWhile isKeyChar)
    else entries cs
termination_by s.length
decreasing_by
  all_goals have := (List.dropWhile_suffix isKeyChar (l := cs)).length_le
  · have := length_readEntry? _h
    simp only [List.length_cons]; omega
  · simp only [List.length_cons]; omega
  · simp

/-- The set of the entries of a tag. -/
def parse (raw : String) : NameSet := .ofList ((entries raw.toList).map String.ofList)

end FieldAudit.Tag
