import Mathlib
import FieldAudit.Proofs.DocComments

/-!
# Deprecated fields

A field of a struct is deprecated by the comments above it. Comments on the row where the declaration before
ends are left out. Of the others the last one has to end on the row above the field, but the one that
deprecates may be any of them: a blank row between the two does not matter.
-/

namespace FieldAudit.Source

section deprecated

variable {δ : Type} {items before after : List (Item δ)} {comments : List Comment}
  {openRow start stop : Nat} {content : δ}

/-- The row where the last of the items ends, or the opening brace if there are none. -/
def rowAfter (openRow : Nat) (items : List (Item δ)) : Nat :=
  (items.getLast?.map Item.endRow).getD openRow

/-- Whether the comments that begin below a row deprecate a node. -/
def marks (row : Nat) (comments : List Comment) (start : Nat) : Bool :=
  endsAbove (comments.filter (row < ·.startRow)) start
    && (comments.filter (row < ·.startRow)).any Comment.deprecates

/-- After an entry the scan starts anew at the row where the entry ends. -/
lemma deprecationsFrom_append_node (row : Nat) (doc : List Comment) (before after : List (Item δ)) :
    deprecationsFrom row doc (before ++ .node start stop content :: after) =
      deprecationsFrom row doc (before ++ [.node start stop content]) ++ deprecations stop after := by
  induction before generalizing row doc with
  | nil => rfl
  | cons item before ih =>
    cases item with
    | comment c => exact ih row _
    | node s e d =>
      rw [List.cons_append, List.cons_append, deprecationsFrom, deprecationsFrom, ih, List.cons_append]

/-- After items that end with an entry the scan starts anew at the row where they end. -/
lemma deprecations_append (ended : Ended before) (rest : List (Item δ)) :
    deprecations openRow (before ++ rest) =
      deprecations openRow before ++ deprecations (rowAfter openRow before) rest := by
  cases before using List.reverseRecOn with
  | nil => rfl
  | append_singleton before item =>
    cases item with
    | comment c => exact absurd List.getLast?_concat (ended c)
    | node s e d =>
      have row : rowAfter openRow (before ++ [.node s e d]) = e := by
        rw [rowAfter, List.getLast?_concat]
        rfl
      rw [List.append_assoc, List.singleton_append, row]
      exact deprecationsFrom_append_node openRow [] before rest

/-- Comments are gathered if they begin below the row where the last entry ended. -/
lemma deprecationsFrom_comments (row : Nat) (doc comments : List Comment) (rest : List (Item δ)) :
    deprecationsFrom row doc (comments.map .comment ++ rest) =
      deprecationsFrom row (doc ++ comments.filter (row < ·.startRow)) rest := by
  induction comments generalizing doc with
  | nil => rw [List.filter_nil, List.append_nil, List.map_nil, List.nil_append]
  | cons c comments ih =>
    rw [List.map_cons, List.cons_append, deprecationsFrom, ih]
    by_cases h : row < c.startRow
    · rw [if_pos h, List.filter_cons, if_pos (decide_eq_true h), List.append_assoc,
        List.singleton_append]
    · rw [if_neg h, List.filter_cons, if_neg (mt of_decide_eq_true h)]

/-- The scan pairs each entry with whether the comments between it and the entry before mark it. -/
lemma scans_deprecations (openRow : Nat) :
    Scans (deprecations (δ := δ) openRow) fun before comments start content =>
      (content, marks (rowAfter openRow before) comments start) := by
  constructor
  · rfl
  · intro before comments ended
    have nothing (row : Nat) : deprecations row (comments.map Item.comment : List (Item δ)) = [] := by
      rw [deprecations, ← List.append_nil (comments.map _), deprecationsFrom_comments,
        deprecationsFrom]
    rw [deprecations_append ended, nothing, List.append_nil]
  · intro before comments start stop content ended
    have alone (row : Nat) : deprecations row (comments.map .comment ++ [.node start stop content]) =
        [(content, marks row comments start)] := by
      rw [deprecations, deprecationsFrom_comments, deprecationsFrom, deprecationsFrom]
      rfl
    rw [deprecations_append ended, alone]

/-- The comment has a line that begins with the mark of a deprecation. -/
def Comment.Deprecates (c : Comment) : Prop :=
  ∃ line ∈ c.lines, "Deprecated:".toList <+: line.toList

/-- The test for a deprecation decides whether a line of the comment begins with that mark. -/
lemma Comment.deprecates_iff {c : Comment} : c.deprecates = true ↔ c.Deprecates := by
  simp only [deprecates, Deprecates, List.any_eq_true, Text.startsWith_iff]

/-- An entry is marked if its comments end in the row above it and one of them says so; comments behind
    the entry before do not count. -/
lemma marks_iff (row : Nat) (comments : List Comment) (start : Nat) :
    marks row comments start = true ↔
      (∃ last ∈ (comments.filter (row < ·.startRow)).getLast?, last.endRow + 1 = start) ∧
        ∃ c ∈ comments.filter (row < ·.startRow), c.Deprecates := by
  rw [marks, Bool.and_eq_true, endsAbove, Option.any_eq_true, List.any_eq_true]
  simp only [beq_iff_eq, Comment.deprecates_iff, Option.mem_def]

/-- If there is no blank row between the comments, the one that deprecates is linked. -/
lemma linked_deprecates_iff (chain : comments.IsChain Follows) :
    ((∃ last ∈ comments.getLast?, last.endRow + 1 = start) ∧ ∃ c ∈ comments, c.Deprecates) ↔
      ∃ c below, c :: below <:+ comments ∧ Linked (c :: below) start ∧ c.Deprecates := by
  constructor
  · rintro ⟨above, c, hc, hd⟩
    obtain ⟨front, below, rfl⟩ := List.append_of_mem hc
    have atEnd : c :: below <:+ front ++ c :: below := List.suffix_append _ _
    refine ⟨c, below, atEnd, ⟨chain.suffix atEnd, ?_⟩, hd⟩
    rwa [getLast?_of_suffix atEnd (List.cons_ne_nil _ _)]
  · rintro ⟨c, below, atEnd, ⟨_, above⟩, hd⟩
    rw [getLast?_of_suffix atEnd (List.cons_ne_nil _ _)] at above
    exact ⟨above, c, atEnd.mem List.mem_cons_self, hd⟩

/-- The fields of declarations, each with the mark of its declaration. -/
def markedFields (entries : List (List (StructField TypeExpr) × Bool)) : List (StructField TypeExpr) :=
  entries.flatMap fun entry => entry.1.map fun field => { field with deprecated := entry.2 }

/-- A struct type has the fields that are read between its braces, each with its mark. -/
lemma structType_of_entries {g : Grammar} {tokens rest : List Token}
    {items : List (Item (List (StructField TypeExpr)))}
    (h : Grammar.entriesBetweenBraces g.fieldEntry tokens = some (items, rest)) :
    g.structType tokens =
      some (.struct (markedFields (deprecations (tokens.headD {}).span.start.row items)), rest) := by
  have read : g.structType tokens = (Grammar.entriesBetweenBraces g.fieldEntry tokens).bind fun found =>
      some (.struct (markedFields (deprecations (tokens.headD {}).span.start.row found.1)), found.2) :=
    rfl
  rw [read, h, Option.bind_some]

/-- The comments before an entry begin no earlier than the entry before ends. -/
lemma Places.rowAfter_le (h : Places items before comments start stop content after)
    (order : InOrder items) (inside : ∀ item ∈ items, openRow ≤ item.startRow) {c : Comment}
    (hc : c ∈ comments) : rowAfter openRow before ≤ c.startRow := by
  unfold rowAfter
  cases hl : before.getLast? with
  | none =>
    apply inside (.comment c)
    rw [h.eq]
    exact List.mem_append_right _ (List.mem_append_left _ (List.mem_map_of_mem hc))
  | some node => exact h.endRow_le order hl hc

/-- Of the comments before an entry those count that do not begin in the row where the entry before
    ends. -/
lemma Places.filter_eq (h : Places items before comments start stop content after)
    (order : InOrder items) (inside : ∀ item ∈ items, openRow ≤ item.startRow) :
    comments.filter (rowAfter openRow before < ·.startRow) =
      comments.filter (·.startRow ≠ rowAfter openRow before) := by
  apply List.filter_congr
  intro c hc
  rw [decide_eq_decide, (h.rowAfter_le order inside hc).lt_iff_ne']

end deprecated

/-- The fields of a struct that is read are those of its declarations. Take the comments between the
    declaration before, or the opening brace, and the field that do not begin on the row where that one ends:
    the field is marked as deprecated exactly if the last of them ends on the row above and some one
    deprecates. If there is no blank row between them, then this one is linked to the field; if there is one,
    it need not be. -/
theorem fields_deprecated {openRow : Nat} {items : List (Item (List (StructField TypeExpr)))}
    (order : InOrder items) (inside : ∀ item ∈ items, openRow ≤ item.startRow) :
    (∀ (g : Grammar) (tokens rest : List Token),
      Grammar.entriesBetweenBraces g.fieldEntry tokens = some (items, rest) →
      (tokens.headD {}).span.start.row = openRow →
      g.structType tokens = some (.struct (markedFields (deprecations openRow items)), rest)) ∧
    ∀ field, field ∈ markedFields (deprecations openRow items) ↔
      ∃ before comments start stop fields after f own,
        Places items before comments start stop fields after ∧ f ∈ fields ∧
        own = comments.filter (·.startRow ≠ rowAfter openRow before) ∧
        field = { f with deprecated := field.deprecated } ∧
        (field.deprecated = true ↔
          (∃ last ∈ own.getLast?, last.endRow + 1 = start) ∧ ∃ c ∈ own, c.Deprecates) ∧
        (own.IsChain Follows → (field.deprecated = true ↔
          ∃ c below, c :: below <:+ own ∧ Linked (c :: below) start ∧ c.Deprecates)) := by
  constructor
  · rintro g tokens rest h rfl
    exact structType_of_entries h
  · intro field
    simp only [markedFields, List.mem_flatMap, List.mem_map]
    constructor
    · rintro ⟨entry, he, f, hf, rfl⟩
      obtain ⟨before, comments, start, stop, fields, after, place, rfl⟩ :=
        (scans_deprecations openRow).mem_iff.1 he
      have marked := marks_iff (rowAfter openRow before) comments start
      rw [place.filter_eq order inside] at marked
      refine ⟨before, comments, start, stop, fields, after, f, _, place, hf, rfl, rfl, marked, ?_⟩
      intro chain
      rw [← linked_deprecates_iff chain]
      exact marked
    · rintro ⟨before, comments, start, stop, fields, after, f, own, place, hf, rfl, e, marked, _⟩
      have entry := (scans_deprecations openRow).mem_iff.2
        ⟨before, comments, start, stop, fields, after, place, rfl⟩
      have same := marks_iff (rowAfter openRow before) comments start
      rw [place.filter_eq order inside, ← marked, ← Bool.eq_iff_iff] at same
      refine ⟨_, entry, f, hf, ?_⟩
      rw [same, ← e]

namespace Sample

/-- A field of the type `string`. -/
def stringField (name : String) : StructField TypeExpr := { name, type := .named none "string" }

/-- A field with a comment behind it, and one with two comments on the rows above. -/
def fieldRows : List (Item (List (StructField TypeExpr))) :=
  [.node 1 1 [stringField "ID"], .comment ⟨"// Deprecated: not below", 1, 1⟩,
   .comment ⟨"// OldName is kept.", 2, 2⟩, .comment ⟨"// Deprecated: use Name.", 3, 3⟩,
   .node 4 4 [stringField "OldName"]]

/-- A comment between blank rows, and one on the row below. -/
def cutOff : List Comment := [⟨"// Deprecated: use Name.", 3, 3⟩, ⟨"// Name of the user.", 5, 5⟩]

/-- The comments, and a field on the next row. -/
def cutOffRows : List (Item (List (StructField TypeExpr))) :=
  [.node 1 1 [stringField "ID"]] ++ (cutOff.map .comment ++ [.node 6 6 [stringField "Name"]])

end Sample

/-- The comment behind the field before is left out, the two on the rows above are linked. -/
theorem fields_deprecated_sample :
    { Sample.stringField "OldName" with deprecated := true } ∈
      markedFields (deprecations 0 Sample.fieldRows) := by
  have order : InOrder Sample.fieldRows := by decide
  obtain ⟨_, marked⟩ := fields_deprecated order fun _ _ => Nat.zero_le _
  have above : ∃ last ∈ [⟨"// OldName is kept.", 2, 2⟩, ⟨"// Deprecated: use Name.", 3, 3⟩].getLast?,
      Comment.endRow last + 1 = 4 := ⟨_, rfl, rfl⟩
  have deprecates : ∃ c ∈ [⟨"// OldName is kept.", 2, 2⟩, ⟨"// Deprecated: use Name.", 3, 3⟩],
      Comment.Deprecates c :=
    ⟨_, List.mem_cons_of_mem _ List.mem_cons_self, Comment.deprecates_iff.1 (by decide)⟩
  refine (marked _).2 ⟨[.node 1 1 [Sample.stringField "ID"]], [⟨"// Deprecated: not below", 1, 1⟩,
    ⟨"// OldName is kept.", 2, 2⟩, ⟨"// Deprecated: use Name.", 3, 3⟩], 4, 4, _, [], _, _, ⟨rfl, ?_⟩,
    List.mem_cons_self, rfl, rfl, iff_of_true rfl ⟨above, deprecates⟩, fun chain => ?_⟩
  · intro c h
    cases h
  · exact iff_of_true rfl ((linked_deprecates_iff chain).1 ⟨above, deprecates⟩)

/-- A field is marked as deprecated for a comment that a blank row cuts off from its own, though none that
    is linked to it deprecates. -/
theorem cut_off_comment_deprecates :
    InOrder Sample.cutOffRows ∧
      Places Sample.cutOffRows [.node 1 1 [Sample.stringField "ID"]] Sample.cutOff 6 6
        [Sample.stringField "Name"] [] ∧
      markedFields (deprecations 0 Sample.cutOffRows) =
        [Sample.stringField "ID", { Sample.stringField "Name" with deprecated := true }] ∧
      ∀ c below, c :: below <:+ Sample.cutOff → Linked (c :: below) 6 → ¬ c.Deprecates := by
  refine ⟨by decide, ⟨rfl, ?_⟩, rfl, ?_⟩
  · intro c h
    cases h
  · intro c below hs linked hd
    rcases List.suffix_cons_iff.1 hs with e | hs
    · cases e
      have row : 5 ≤ 3 + 1 := (List.isChain_cons_cons.1 linked.1).1
      exact absurd row (by decide)
    · rcases List.suffix_cons_iff.1 hs with e | hs
      · cases e
        exact absurd (Comment.deprecates_iff.2 hd) (by decide)
      · exact absurd (List.suffix_nil.1 hs) (List.cons_ne_nil _ _)

end FieldAudit.Source
