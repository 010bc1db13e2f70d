import Mathlib
import FieldAudit.Proofs.Classification
import FieldAudit.Report.Note

/-!
# The arrows of a table stand below each other

The rows for the source are filled up to the longest name, the rows for the destination to the longest name
or the sign for a missing field, whichever is longer. The two agree as soon as no name of the source is shorter
than that sign. In the verdict on a function each begins with a parameter and a dot, so that none is shorter.
-/

namespace FieldAudit.Report

/-- One row stands for all missing fields: there are more than five, all on the same side. -/
def Collapses (source dest : List String) : Prop :=
  (source = [] ∧ 5 < dest.length) ∨ (dest = [] ∧ 5 < source.length)

/-- A line with a text on each side of an arrow in this column. At least one blank stands before the
    arrow. -/
def HasArrow (column : Nat) (left right line : String) : Prop :=
  ∃ gap, 0 < gap ∧ line = "  " ++ left ++ blanks gap ++ "→ " ++ right ∧
    ("  " ++ left ++ blanks gap).length = column

/-- Lines for the missing fields, first those of the source and then those of the destination in their
    order, with the arrows in the same column. -/
def Tabulates (column : Nat) (source dest lines : List String) : Prop :=
  ∃ above below, lines = above ++ below ∧
    List.Forall₂ (fun path line => HasArrow column path "??" line) source above ∧
    List.Forall₂ (fun path line => HasArrow column "??" path line) dest below

/-! ## Widths -/

/-- A greatest length is within a bound exactly if every length is. -/
lemma foldl_max_le_iff {lengths : List Nat} {start bound : Nat} :
    lengths.foldl max start ≤ bound ↔ start ≤ bound ∧ ∀ n ∈ lengths, n ≤ bound := by
  induction lengths generalizing start with
  | nil => simp
  | cons n lengths ih => rw [List.foldl_cons, ih, max_le_iff, List.forall_mem_cons, and_assoc]

/-- The width of a column is within a bound exactly if every name is, and the bound is not zero. -/
lemma width_le_iff {names : List String} {bound : Nat} :
    width names ≤ bound ↔ 1 ≤ bound ∧ ∀ name ∈ names, name.length ≤ bound := by
  rw [width, foldl_max_le_iff, List.forall_mem_map]

/-- No name is longer than the column is wide. -/
lemma length_le_width {names : List String} {name : String} (h : name ∈ names) :
    name.length ≤ width names :=
  (width_le_iff.1 le_rfl).2 name h

/-! ## Rows -/

/-- A run of blanks has the wanted length. -/
lemma length_blanks (n : Nat) : (blanks n).length = n := by
  rw [blanks, String.length_ofList, List.length_replicate]

namespace Row

/-- The arrow of a row stands after as many characters as its column says. -/
lemma length_before_arrow (r : Row) : ("  " ++ r.left ++ blanks r.gap).length = r.arrow := by
  rw [String.length_append, String.length_append, length_blanks]
  rfl

/-- A row with a gap is drawn as its left side, its arrow and its right side. -/
lemma hasArrow {r : Row} (h : 0 < r.gap) : HasArrow r.arrow r.left r.right r.render :=
  ⟨r.gap, h, rfl, r.length_before_arrow⟩

/-- In the drawn row the arrow stands at its column. -/
lemma getElem?_render (r : Row) : r.render.toList[r.arrow]? = some '→' := by
  rw [render, String.append_assoc, String.toList_append, ← r.length_before_arrow,
    ← String.length_toList, List.getElem?_append_right le_rfl, Nat.sub_self, String.toList_append]
  rfl

/-- The row for a missing field of the source in a table for names of this width. -/
def ofSource (width : Nat) (path : String) : Row := ⟨path, width - path.length + 1, unknown⟩

/-- The row for a missing field of the destination in a table for names of this width. -/
def ofDest (width : Nat) (path : String) : Row := ⟨unknown, width - unknown.length + 1, path⟩

/-- The arrow of a source row stands three characters after the column of names. -/
lemma arrow_ofSource {width : Nat} {path : String} (h : path.length ≤ width) :
    (ofSource width path).arrow = width + 3 := by
  simp only [arrow, ofSource]
  omega

/-- Below the width of the sign for a missing field the arrow moves no further to the left. -/
lemma arrow_ofDest (width : Nat) (path : String) :
    (ofDest width path).arrow = max width 2 + 3 := by
  have two : unknown.length = 2 := rfl
  simp only [arrow, ofDest, two]
  omega

end Row

section

variable {source dest : List String}

/-- A table that collapses has a title and a single line for the side that is missing altogether. -/
lemma noteLines_of_collapses (h : Collapses source dest) :
    noteLines source dest =
      [title, if source = [] then "  ??  → all output fields" else "  all input fields → ??"] := by
  unfold noteLines rows
  rcases h with ⟨rfl, many⟩ | ⟨rfl, many⟩
  · rw [if_pos (by simpa [collapseThreshold] using many), if_pos rfl]
    rfl
  · have ne : source ≠ [] := List.ne_nil_of_length_pos (by omega)
    rw [if_neg (by simp), if_pos (by simpa [collapseThreshold] using many), if_neg ne]
    rfl

/-- A table that does not collapse has a row for each source field and then one for each destination
    field. -/
lemma rows_of_not_collapses (h : ¬ Collapses source dest) :
    rows source dest = source.map (.ofSource (width (source ++ dest))) ++
      dest.map (.ofDest (width (source ++ dest))) := by
  obtain ⟨h1, h2⟩ := not_or.1 h
  unfold rows
  rw [if_neg, if_neg]
  · rfl
  · simpa [collapseThreshold] using h2
  · simpa [collapseThreshold] using h1

/-- The column of the arrows in a table. -/
def arrowColumn (source dest : List String) : Nat := max (width (source ++ dest)) 2 + 3

/-- No name is cut, and a name of the source that is not shorter than the sign for a missing field leaves
    no room for the two kinds of rows to differ. -/
lemma arrow_ofSource_eq {path : String} (h : path ∈ source) (long : 2 ≤ path.length) :
    (Row.ofSource (width (source ++ dest)) path).arrow = arrowColumn source dest := by
  have fits : path.length ≤ width (source ++ dest) := length_le_width (List.mem_append_left _ h)
  rw [Row.arrow_ofSource fits, arrowColumn, max_eq_left (long.trans fits)]

/-- All rows of a table have their arrow in the column of the table. -/
lemma arrow_of_mem_rows (long : ∀ path ∈ source, 2 ≤ path.length) (h : ¬ Collapses source dest) {row : Row}
    (hr : row ∈ rows source dest) : row.arrow = arrowColumn source dest := by
  rw [rows_of_not_collapses h] at hr
  rcases List.mem_append.1 hr with hr | hr
  · obtain ⟨path, hp, rfl⟩ := List.mem_map.1 hr
    exact arrow_ofSource_eq hp (long path hp)
  · obtain ⟨path, _, rfl⟩ := List.mem_map.1 hr
    exact Row.arrow_ofDest _ path

/-- The drawn rows list every path once, in order, with the arrow in one column. -/
lemma tabulates_rows (long : ∀ path ∈ source, 2 ≤ path.length) (h : ¬ Collapses source dest) :
    Tabulates (arrowColumn source dest) source dest ((rows source dest).map Row.render) := by
  rw [rows_of_not_collapses h, List.map_append, List.map_map, List.map_map]
  refine ⟨_, _, rfl, ?_, ?_⟩
  · rw [List.forall₂_map_right_iff, List.forall₂_same]
    intro path hp
    rw [← arrow_ofSource_eq hp (long path hp)]
    exact Row.hasArrow (Nat.succ_pos _)
  · rw [List.forall₂_map_right_iff, List.forall₂_same]
    intro path _
    rw [arrowColumn, ← Row.arrow_ofDest _ path]
    exact Row.hasArrow (Nat.succ_pos _)

end

/-! ## Names in verdicts -/

section

variable {settings : Settings} {table : TypeTable} {decl : FuncDecl} {sig : Signature}

/-- The name of a source that was selected is that of a parameter. -/
lemma exists_param_of_selectPair {pair : ConverterPair} {var : String}
    (hp : selectPair settings table decl sig = .ok pair) (hx : pair.source.name = some var) :
    ∃ param ∈ decl.params, param.name = some var := by
  obtain ⟨_, named⟩ := mem_candidateParams.1 (mem_of_selectPair hp).1
  obtain ⟨param, position, declared⟩ := Option.bind_eq_some_iff.1 (named.symm.trans hx)
  exact ⟨param, List.mem_of_getElem? position, (Option.filter_eq_some_iff.1 declared).1⟩

/-- The missing fields of the source stand below the name of a parameter. -/
lemma missingSource_of_judge {v : Verdict} (h : judge settings table decl sig = .ok v) :
    ∃ var, (∃ param ∈ decl.params, param.name = some var) ∧
      ∀ path ∈ v.missingSource, ∃ field, path = var ++ "." ++ field := by
  cases judged_of_judge h with
  | noBody hp hx _ => exact ⟨_, exists_param_of_selectPair hp hx, fun _ h => absurd h List.not_mem_nil⟩
  | delegating hp hx _ _ => exact ⟨_, exists_param_of_selectPair hp hx, fun _ h => absurd h List.not_mem_nil⟩
  | body hp hx _ _ =>
    refine ⟨_, exists_param_of_selectPair hp hx, fun path hm => ?_⟩
    obtain ⟨field, _, rfl⟩ := List.mem_map.1 hm
    exact ⟨field, rfl⟩

end

/-- A field of a named variable is written with two characters at least. -/
lemma two_le_length_of_named {var : String} (h : var ≠ "") (field : String) :
    2 ≤ (var ++ "." ++ field).length := by
  have dot : ".".length = 1 := rfl
  have pos : var.length ≠ 0 := mt String.length_eq_zero_iff.1 h
  rw [String.length_append, String.length_append, dot]
  omega

/-- Take a verdict in which each missing field of the source is named by two characters or more. No name is
    longer than the width of the table, so no row lacks room for its blanks. If one side is empty and the other
    has more than five fields, there is a single row; otherwise each field has a row of its own, in order, and
    the arrow has the same column in all of them. The verdict on a function is of this kind, because it names the
    fields of the source below a parameter, unless the name of that parameter is empty. -/
theorem table_aligned (v : Verdict) :
    ((∀ path ∈ v.missingSource, 2 ≤ path.length) →
      (∀ path ∈ v.missingSource, path.length ≤ width (v.missingSource ++ v.missingDest)) ∧
      (Collapses v.missingSource v.missingDest →
        noteLines v.missingSource v.missingDest = [title,
          if v.missingSource = [] then "  ??  → all output fields" else "  all input fields → ??"]) ∧
      (¬ Collapses v.missingSource v.missingDest →
        ∃ column lines, noteLines v.missingSource v.missingDest = title :: lines ∧
          Tabulates column v.missingSource v.missingDest lines ∧
          ∀ line ∈ lines, line.toList[column]? = some '→')) ∧
    ∀ settings table decl sig, judge settings table decl sig = .ok v →
      ∃ var, (∃ param ∈ decl.params, param.name = some var) ∧
        ∀ path ∈ v.missingSource, (∃ field, path = var ++ "." ++ field) ∧ (var ≠ "" → 2 ≤ path.length) := by
  constructor
  · intro long
    refine ⟨?_, noteLines_of_collapses, ?_⟩
    · intro path hp
      exact length_le_width (List.mem_append_left _ hp)
    · intro full
      refine ⟨_, _, rfl, tabulates_rows long full, ?_⟩
      intro line hl
      obtain ⟨row, hr, rfl⟩ := List.mem_map.1 hl
      rw [← arrow_of_mem_rows long full hr]
      exact row.getElem?_render
  · intro settings table decl sig h
    obtain ⟨var, named, below⟩ := missingSource_of_judge h
    refine ⟨var, named, fun path hp => ?_⟩
    obtain ⟨field, rfl⟩ := below path hp
    exact ⟨⟨field, rfl⟩, fun ne => two_le_length_of_named ne field⟩

/-- A name of one character is shorter than the sign for a missing field, and its arrow stands before the
    others. -/
example : (rows ["."] ["X"]).map Row.arrow = [4, 5] := by decide

namespace Sample

/-- The verdict on `ToDTO` without a statement. -/
def nothingCopied : Verdict := judgeBody {} FieldAudit.Sample.table (FieldAudit.Sample.pair []) "u" []

/-- A verdict with many fields missing on one side. -/
def allDropped : Verdict :=
  { valid := false, kind := {}, missingDest := ["ID", "Name", "Email", "City", "Zip", "Äge"] }

end Sample

/-- Four rows for the fields of two structs, and one for the six fields of a destination. -/
theorem table_aligned_sample :
    judge {} FieldAudit.Sample.table (FieldAudit.Sample.toDTO []) FieldAudit.Sample.sig =
        .ok Sample.nothingCopied ∧
      (∀ path ∈ Sample.nothingCopied.missingSource, 2 ≤ path.length) ∧
      (∃ column lines,
        noteLines ["u.ID", "u.Name"] ["ID", "Name"] = title :: lines ∧
          Tabulates column ["u.ID", "u.Name"] ["ID", "Name"] lines ∧
          ∀ line ∈ lines, line.toList[column]? = some '→') ∧
      noteLines [] Sample.allDropped.missingDest = [title, "  ??  → all output fields"] := by
  have judged : judge {} FieldAudit.Sample.table (FieldAudit.Sample.toDTO []) FieldAudit.Sample.sig =
      .ok Sample.nothingCopied := judge_of_body (FieldAudit.Sample.selectPair_toDTO []) rfl rfl rfl
  have source : Sample.nothingCopied.missingSource = ["u.ID", "u.Name"] := by decide +kernel
  have dest : Sample.nothingCopied.missingDest = ["ID", "Name"] := by decide +kernel
  obtain ⟨aligned, named⟩ := table_aligned Sample.nothingCopied
  have long : ∀ path ∈ Sample.nothingCopied.missingSource, 2 ≤ path.length := by
    -- the only parameter is `u`
    obtain ⟨var, ⟨param, hp, hn⟩, below⟩ := named {} _ _ _ judged
    obtain rfl := List.mem_singleton.1 hp
    cases hn
    exact fun path hm => (below path hm).2 (by decide)
  obtain ⟨_, _, full⟩ := aligned long
  obtain ⟨_, collapsed, _⟩ := (table_aligned Sample.allDropped).1 fun _ h => absurd h List.not_mem_nil
  rw [source, dest] at full
  exact ⟨judged, long, full (by simp [Collapses]), collapsed (.inl ⟨rfl, by decide⟩)⟩

end FieldAudit.Report
