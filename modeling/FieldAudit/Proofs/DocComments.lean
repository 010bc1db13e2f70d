import Mathlib
import FieldAudit.Source.File
import FieldAudit.Suppression

/-!
# Doc comments of functions

Comments and declarations are told by their rows alone. A function is documented by the comments above it
that are linked to it: no blank row stands between any two of them or before the function. Where the
declaration before ends plays no part in this, so a comment behind it may be among them.
-/

namespace FieldAudit.Source

/-- There is no blank row between the first comment and the second one. -/
def Follows (c d : Comment) : Prop := d.startRow ≤ c.endRow + 1

/-- There is no blank row between any two of the comments, and the last one ends on the row above. -/
def Linked (comments : List Comment) (row : Nat) : Prop :=
  comments.IsChain Follows ∧ ∃ last ∈ comments.getLast?, last.endRow + 1 = row

/-- Of the comments before a node on a row, these at their end are the ones that are linked to it. -/
structure Documents (own comments : List Comment) (row : Nat) : Prop where
  atEnd : own <:+ comments
  linked_iff : ∀ c below, c :: below <:+ comments → (c :: below <:+ own ↔ Linked (c :: below) row)

section items

variable {δ : Type}

/-- The first row of a comment or node. -/
def Item.startRow : Item δ → Nat
  | .comment c => c.startRow
  | .node startRow _ _ => startRow

/-- The last row of a comment or node. -/
def Item.endRow : Item δ → Nat
  | .comment c => c.endRow
  | .node _ endRow _ => endRow

/-- Each item begins at the earliest on the row where those before it end. -/
def InOrder (items : List (Item δ)) : Prop := items.Pairwise fun i j => i.endRow ≤ j.startRow

instance : DecidablePred (InOrder (δ := δ)) := fun items =>
  inferInstanceAs (Decidable (items.Pairwise _))

/-- The items end with a node, if there are any. -/
def Ended (items : List (Item δ)) : Prop := ∀ c, items.getLast? ≠ some (.comment c)

/-- The items have the node in this place, with the comments between it and what comes before. -/
structure Places (items before : List (Item δ)) (comments : List Comment) (startRow endRow : Nat)
    (content : δ) (after : List (Item δ)) : Prop where
  eq : items = before ++ (comments.map .comment ++ .node startRow endRow content :: after)
  ended : Ended before

end items

/-! ## Gathering comments -/

section gathering

variable {doc comments : List Comment} {c : Comment}

/-- A comment joins those before it if it follows the last one of them, and starts anew otherwise. -/
lemma gather_cases (doc : List Comment) (c : Comment) :
    (gather doc c = doc ++ [c] ∧ ∀ last ∈ doc.getLast?, Follows last c) ∨
      (gather doc c = [c] ∧ ∃ last ∈ doc.getLast?, ¬ Follows last c) := by
  unfold gather
  cases doc.getLast? with
  | none => exact .inl ⟨rfl, fun _ h => absurd h (Option.not_mem_none _)⟩
  | some last =>
    by_cases h : c.startRow ≤ last.endRow + 1
    · refine .inl ⟨if_pos (decide_eq_true h), ?_⟩
      rintro _ ⟨⟩
      exact h
    · exact .inr ⟨if_neg (mt of_decide_eq_true h), last, rfl, h⟩

/-- The last gathered comment is the new one. -/
lemma getLast?_gather (doc : List Comment) (c : Comment) : (gather doc c).getLast? = some c := by
  rcases gather_cases doc c with ⟨e, _⟩ | ⟨e, _⟩
  · rw [e, List.getLast?_concat]
  · rw [e]
    rfl

/-- The last gathered comment is the last one of all. -/
lemma getLast?_foldl_gather (comments : List Comment) :
    (comments.foldl gather []).getLast? = comments.getLast? := by
  induction comments using List.reverseRecOn with
  | nil => rfl
  | append_singleton comments c _ =>
    rw [List.foldl_concat, getLast?_gather, List.getLast?_concat]

/-- The last comments of a list end like the list. -/
lemma getLast?_of_suffix {own : List Comment} (hs : own <:+ comments) (ne : own ≠ []) :
    own.getLast? = comments.getLast? := by
  obtain ⟨front, rfl⟩ := hs
  exact (List.getLast?_append_of_ne_nil front ne).symm

/-- A common last comment does not matter to being the last ones of a list. -/
lemma concat_suffix_concat {own : List Comment} :
    own ++ [c] <:+ comments ++ [c] ↔ own <:+ comments := by
  constructor
  · rintro ⟨front, e⟩
    rw [← List.append_assoc] at e
    exact ⟨front, List.append_cancel_right e⟩
  · rintro ⟨front, rfl⟩
    exact ⟨front, (List.append_assoc front own [c]).symm⟩

/-- The gathered comments are the last ones of all. -/
lemma foldl_gather_suffix (comments : List Comment) : comments.foldl gather [] <:+ comments := by
  induction comments using List.reverseRecOn with
  | nil => exact List.suffix_rfl
  | append_singleton comments c ih =>
    rw [List.foldl_concat]
    rcases gather_cases (comments.foldl gather []) c with ⟨e, _⟩ | ⟨e, _⟩
    · rw [e]
      exact concat_suffix_concat.2 ih
    · rw [e]
      exact List.suffix_append _ _

/-- What is gathered are the last comments, as many as have no blank row between them. -/
lemma suffix_foldl_gather_iff {own : List Comment} (hs : own <:+ comments) (ne : own ≠ []) :
    own <:+ comments.foldl gather [] ↔ own.IsChain Follows := by
  -- From the end: a blank row before the last comment cuts off all that was gathered.
  induction comments using List.reverseRecOn generalizing own with
  | nil => exact absurd (List.suffix_nil.1 hs) ne
  | append_singleton comments d ih =>
    rcases List.suffix_concat_iff.1 hs with rfl | ⟨front, rfl, hf⟩
    · exact absurd rfl ne
    rw [List.foldl_concat]
    have step := gather_cases (comments.foldl gather []) d
    cases front with
    | nil =>
      refine ⟨fun _ => List.isChain_singleton d, fun _ => ?_⟩
      rcases step with ⟨e, _⟩ | ⟨e, _⟩
      · rw [e]
        exact List.suffix_append _ _
      · rw [e]
        exact List.suffix_rfl
    | cons c front =>
      have ne := List.cons_ne_nil c front
      rw [getLast?_foldl_gather, ← getLast?_of_suffix hf ne] at step
      rw [List.isChain_append]
      rcases step with ⟨e, linked⟩ | ⟨e, last, hl, cut⟩
      · rw [e, concat_suffix_concat, ih hf ne]
        refine ⟨fun chain => ⟨chain, List.isChain_singleton d, ?_⟩, fun h => h.1⟩
        rintro x hx _ ⟨⟩
        exact linked x hx
      · rw [e]
        constructor
        · intro h
          exact absurd h.length_le (by simp)
        · rintro ⟨_, _, h⟩
          exact absurd (h last hl d rfl) cut

/-- The comments that document a node on a row. -/
def ownDoc (comments : List Comment) (row : Nat) : List Comment :=
  if endsAbove (comments.foldl gather []) row then comments.foldl gather [] else []

/-- The comments that are taken for a declaration document it. -/
lemma documents_ownDoc (comments : List Comment) (row : Nat) :
    Documents (ownDoc comments row) comments row := by
  have above : endsAbove (comments.foldl gather []) row = true ↔
      ∃ last ∈ comments.getLast?, last.endRow + 1 = row := by
    rw [endsAbove, getLast?_foldl_gather, Option.any_eq_true]
    simp only [beq_iff_eq, Option.mem_def]
  unfold ownDoc
  constructor
  · split
    · exact foldl_gather_suffix comments
    · exact List.nil_suffix
  · intro c below hs
    have ne := List.cons_ne_nil c below
    rw [Linked, getLast?_of_suffix hs ne, ← above]
    split
    · rename_i h
      rw [suffix_foldl_gather_iff hs ne]
      exact ⟨fun chain => ⟨chain, h⟩, fun linked => linked.1⟩
    · rename_i h
      exact ⟨fun hn => absurd (List.suffix_nil.1 hn) ne, fun linked => absurd linked.2 h⟩

/-- Of two lists that document a declaration the first is the end of the second. -/
lemma Documents.suffix {own own' : List Comment} {row : Nat} (h : Documents own comments row)
    (h' : Documents own' comments row) : own <:+ own' := by
  cases own with
  | nil => exact List.nil_suffix
  | cons c below =>
    have linked := (h.linked_iff c below h.atEnd).1 List.suffix_rfl
    exact (h'.linked_iff c below h.atEnd).2 linked

/-- One list of comments documents a declaration. -/
lemma Documents.unique {own own' : List Comment} {row : Nat} (h : Documents own comments row)
    (h' : Documents own' comments row) : own = own' :=
  (h.suffix h').eq_of_length_le (h'.suffix h).length_le

end gathering

/-! ## Nodes in their places -/

section places

variable {δ β : Type} {items before after : List (Item δ)} {comments : List Comment}
  {start stop : Nat} {content : δ}

/-- Items consist of some that end with a declaration and the comments after these. -/
lemma exists_ended (items : List (Item δ)) :
    ∃ (before : List (Item δ)) (comments : List Comment),
      items = before ++ comments.map .comment ∧ Ended before := by
  induction items using List.reverseRecOn with
  | nil => exact ⟨[], [], rfl, fun c h => absurd h (by simp)⟩
  | append_singleton items item ih =>
    cases item with
    | comment c =>
      obtain ⟨before, comments, rfl, ended⟩ := ih
      refine ⟨before, comments ++ [c], ?_, ended⟩
      rw [List.map_append, List.append_assoc]
      rfl
    | node s e d =>
      refine ⟨items ++ [.node s e d], [], (List.append_nil _).symm, fun c h => ?_⟩
      rw [List.getLast?_concat] at h
      cases h

/-- In the order of the rows, the comments above a node begin where the node before ends or later. -/
lemma Places.endRow_le (h : Places items before comments start stop content after)
    (order : InOrder items) {node : Item δ} (hn : node ∈ before.getLast?) {c : Comment}
    (hc : c ∈ comments) : node.endRow ≤ c.startRow := by
  rw [InOrder, h.eq, List.pairwise_append] at order
  exact order.2.2 node (List.mem_of_getLast? hn) (.comment c)
    (List.mem_append_left _ (List.mem_map_of_mem hc))

/-- The function lists one entry for each node, made of the node, the comments above it and the items
    before these. -/
structure Scans (f : List (Item δ) → List β)
    (entry : List (Item δ) → List Comment → Nat → δ → β) : Prop where
  nil : f [] = []
  comments : ∀ before (comments : List Comment), Ended before →
    f (before ++ comments.map .comment) = f before
  node : ∀ before (comments : List Comment) start stop content, Ended before →
    f (before ++ (comments.map .comment ++ [.node start stop content])) =
      f before ++ [entry before comments start content]

namespace Scans

variable {f : List (Item δ) → List β} {entry : List (Item δ) → List Comment → Nat → δ → β}

/-- A comment at the end adds nothing to a scan. -/
lemma concat_comment (h : Scans f entry) (items : List (Item δ)) (c : Comment) :
    f (items ++ [.comment c]) = f items := by
  obtain ⟨before, comments, rfl, ended⟩ := exists_ended items
  have more := h.comments before (comments ++ [c]) ended
  rw [List.map_append, ← List.append_assoc] at more
  exact more.trans (h.comments before comments ended).symm

/-- A declaration at the end adds its own entry to a scan. -/
lemma concat_node (h : Scans f entry) (items : List (Item δ)) (start stop : Nat) (content : δ) :
    ∃ before comments, Places (items ++ [.node start stop content]) before comments start stop content [] ∧
      f (items ++ [.node start stop content]) = f items ++ [entry before comments start content] := by
  obtain ⟨before, comments, rfl, ended⟩ := exists_ended items
  refine ⟨before, comments, ⟨List.append_assoc _ _ _, ended⟩, ?_⟩
  rw [List.append_assoc, h.node before comments start stop content ended,
    h.comments before comments ended]

/-- What a scan has found stays when more items follow. -/
lemma mem_append (h : Scans f entry) {b : β} (hb : b ∈ f items) (after : List (Item δ)) :
    b ∈ f (items ++ after) := by
  induction after using List.reverseRecOn with
  | nil => rwa [List.append_nil]
  | append_singleton after item ih =>
    rw [← List.append_assoc]
    cases item with
    | comment c => rwa [h.concat_comment]
    | node s e d =>
      obtain ⟨before, comments, _, eq⟩ := h.concat_node (items ++ after) s e d
      rw [eq]
      exact List.mem_append_left _ ih

/-- The entries are those of the nodes in their places. -/
lemma mem_iff (h : Scans f entry) {b : β} :
    b ∈ f items ↔ ∃ before comments start stop content after,
      Places items before comments start stop content after ∧
        b = entry before comments start content := by
  constructor
  · intro hb
    -- From the end, since an entry is made of what stands before its node.
    induction items using List.reverseRecOn with
    | nil =>
      rw [h.nil] at hb
      exact absurd hb List.not_mem_nil
    | append_singleton items item ih =>
      have earlier : b ∈ f items → ∃ before comments start stop content after,
          Places (items ++ [item]) before comments start stop content after ∧
            b = entry before comments start content := by
        intro hb
        obtain ⟨before, comments, start, stop, content, after, ⟨rfl, ended⟩, rfl⟩ := ih hb
        exact ⟨before, comments, start, stop, content, after ++ [item], ⟨by simp, ended⟩, rfl⟩
      cases item with
      | comment c =>
        rw [h.concat_comment] at hb
        exact earlier hb
      | node s e d =>
        obtain ⟨before, comments, place, eq⟩ := h.concat_node items s e d
        rw [eq, List.mem_append, List.mem_singleton] at hb
        rcases hb with hb | rfl
        · exact earlier hb
        · exact ⟨before, comments, s, e, d, [], place, rfl⟩
  · rintro ⟨before, comments, start, stop, content, after, ⟨rfl, ended⟩, rfl⟩
    have here : entry before comments start content ∈
        f (before ++ (comments.map .comment ++ [.node start stop content])) := by
      rw [h.node before comments start stop content ended]
      exact List.mem_append_right _ List.mem_cons_self
    have more := h.mem_append here after
    rwa [List.append_assoc, List.append_assoc, List.singleton_append] at more

end Scans

end places

/-! ## Functions and their doc comments -/

section documented

variable {δ : Type}

/-- After a declaration the scan starts anew. -/
lemma documentFrom_append_node (doc : List Comment) (before after : List (Item δ)) {start stop : Nat}
    {content : δ} :
    documentFrom doc (before ++ .node start stop content :: after) =
      documentFrom doc (before ++ [.node start stop content]) ++ document after := by
  induction before generalizing doc with
  | nil => rfl
  | cons item before ih =>
    cases item with
    | comment c => exact ih (gather doc c)
    | node s e d =>
      rw [List.cons_append, List.cons_append, documentFrom, documentFrom, ih, List.cons_append]

/-- After items that end with a declaration the scan starts anew. -/
lemma document_append {before : List (Item δ)} (ended : Ended before) (rest : List (Item δ)) :
    document (before ++ rest) = document before ++ document rest := by
  cases before using List.reverseRecOn with
  | nil => rfl
  | append_singleton before item =>
    cases item with
    | comment c => exact absurd List.getLast?_concat (ended c)
    | node s e d =>
      rw [List.append_assoc, List.singleton_append]
      exact documentFrom_append_node [] before rest

/-- Comments are gathered one after the other. -/
lemma documentFrom_comments (doc comments : List Comment) (rest : List (Item δ)) :
    documentFrom doc (comments.map .comment ++ rest) = documentFrom (comments.foldl gather doc) rest := by
  induction comments generalizing doc with
  | nil => rfl
  | cons c comments ih => exact ih (gather doc c)

/-- The scan pairs each declaration with the comments that are taken for it. -/
lemma scans_document :
    Scans (document (δ := δ)) fun _ comments start content =>
      (content, (ownDoc comments start).flatMap Comment.lines) := by
  constructor
  · rfl
  · intro before comments ended
    have nothing : document (comments.map Item.comment : List (Item δ)) = [] := by
      rw [document, ← List.append_nil (comments.map _), documentFrom_comments, documentFrom]
    rw [document_append ended, nothing, List.append_nil]
  · intro before comments start stop content ended
    have alone : document (comments.map .comment ++ [.node start stop content]) =
        [(content, (ownDoc comments start).flatMap Comment.lines)] := by
      rw [document, documentFrom_comments, documentFrom, documentFrom, ownDoc]
      split
      · rfl
      · rfl
    rw [document_append ended, alone]

/-- The function that a declaration is, with its doc comment. -/
def documented : Decl × List String → Option FuncDecl
  | (.function f, doc) => some { f with doc }
  | _ => none

/-- The functions of a file are the declared ones, each with its comment. -/
lemma functions_of_collect {generated : Bool} {items : List (Item Decl)} {file : SourceFile}
    (h : collect generated items = .ok file) :
    file.functions = (document items).filterMap documented := by
  unfold collect at h
  simp only at h
  split at h
  · cases h
  · cases h
    congr 1

/-- A function gets the comment that it is paired with, and other declarations are no functions. -/
lemma documented_eq_some {d : Decl} {doc : List String} {g : FuncDecl} :
    documented (d, doc) = some g ↔ ∃ f, d = .function f ∧ g = { f with doc } := by
  cases d with
  | function f => simp [documented, eq_comm]
  | package | imports | types | other => simp [documented]

/-- The functions of a file are those among the declarations, each with the lines of exactly those comments
    before it that are linked to it: there is no blank row between any two of them or before the function.
    None begins before the row where the declaration before ends. One that begins on that row is no
    exception: a comment behind a declaration may document the function on the next row. -/
theorem functions_documented {items : List (Item Decl)} {generated : Bool} {file : SourceFile}
    (order : InOrder items) (read : collect generated items = .ok file) (g : FuncDecl) :
    g ∈ file.functions ↔ ∃ before comments start stop f after own,
      Places items before comments start stop (.function f) after ∧ Documents own comments start ∧
        (∀ c ∈ own, ∀ node ∈ before.getLast?, node.endRow ≤ c.startRow) ∧
        g = { f with doc := own.flatMap Comment.lines } := by
  rw [functions_of_collect read, List.mem_filterMap]
  constructor
  · rintro ⟨⟨d, doc⟩, hm, hd⟩
    obtain ⟨f, rfl, rfl⟩ := documented_eq_some.1 hd
    obtain ⟨before, comments, start, stop, content, after, place, e⟩ := scans_document.mem_iff.1 hm
    cases e
    have own := documents_ownDoc comments start
    refine ⟨before, comments, start, stop, f, after, _, place, own, ?_, rfl⟩
    intro c hc node hn
    exact place.endRow_le order hn (own.atEnd.mem hc)
  · rintro ⟨before, comments, start, stop, f, after, own, place, documents, _, rfl⟩
    refine ⟨(.function f, own.flatMap Comment.lines), scans_document.mem_iff.2 ?_, rfl⟩
    refine ⟨before, comments, start, stop, _, after, place, ?_⟩
    rw [documents.unique (documents_ownDoc comments start)]

end documented

namespace Sample

/-- The function `ToDTO`, whatever its body is. -/
def toDTO : FuncDecl := { name := "ToDTO" }

/-- Three comments, with a blank row after the first one. -/
def comments : List Comment :=
  [⟨"// Converters.", 2, 2⟩, ⟨"/* ToDTO drops\n * the password. */", 4, 5⟩, ⟨"//nolint", 6, 6⟩]

/-- The comments, and the function on the next row. -/
def docRows : List (Item Decl) :=
  [.node 0 0 (.package "app")] ++ (comments.map .comment ++ [.node 7 9 (.function toDTO)])

/-- A declaration with a comment behind it, and the function on the next row. -/
def trailingRows : List (Item Decl) :=
  [.node 0 0 (.package "app"), .node 2 2 .other, .comment ⟨"//nolint", 2, 2⟩,
   .node 3 5 (.function toDTO)]

end Sample

/-- The comment before the blank row is cut off. -/
theorem functions_documented_sample :
    ∃ file, collect false Sample.docRows = .ok file ∧
      { Sample.toDTO with doc := ["ToDTO drops", "the password.", "nolint"] } ∈ file.functions := by
  have order : InOrder Sample.docRows := by decide
  have own : Documents (Sample.comments.drop 1) Sample.comments 7 := documents_ownDoc Sample.comments 7
  have lines : ["ToDTO drops", "the password.", "nolint"] =
      (Sample.comments.drop 1).flatMap Comment.lines := by decide
  refine ⟨_, rfl, (functions_documented order rfl _).2 ?_⟩
  refine ⟨[.node 0 0 (.package "app")], Sample.comments, 7, 9, Sample.toDTO, [], _, ⟨rfl, ?_⟩, own, ?_, ?_⟩
  · intro c h
    cases h
  · intro c hc node hn
    cases hn
    exact Nat.zero_le _
  · rw [lines]

/-- A comment behind a declaration is taken for the doc comment of the function on the next row, and
    suppresses it. -/
theorem trailing_comment_suppresses :
    InOrder Sample.trailingRows ∧
      Places Sample.trailingRows [.node 0 0 (.package "app"), .node 2 2 .other] [⟨"//nolint", 2, 2⟩] 3 5
        (.function Sample.toDTO) [] ∧
      ∃ file, collect false Sample.trailingRows = .ok file ∧
        file.functions.map (fun g => (g.doc, g.suppression?)) = [(["nolint"], some "")] := by
  refine ⟨by decide, ⟨rfl, ?_⟩, _, rfl, ?_⟩
  · intro c h
    cases h
  · decide +kernel

end FieldAudit.Source
