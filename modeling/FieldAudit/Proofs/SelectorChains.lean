import Mathlib
import FieldAudit.Proofs.Composition
import FieldAudit.Proofs.UsageNodes

/-!
# Selector chains

A chain selects fields of a variable one after the other and may index, dereference, put in parentheses
or take the address of what it has reached. Read from the outside it has one path. Read from the inside
it goes on over every link but `&`: a selector whose address is taken counts as the outermost one. So a
chain is recorded at its full path and, once more, at each path whose address it takes on the way.
-/

namespace FieldAudit

/-- No selector stands in the expression. -/
def Expr.SelectorFree (e : Expr) : Prop :=
  ∀ base field, ¬ (Node.expr e).Contains (.expr (.selector base field))

/-- The expression is a chain on a variable. It selects the fields of a path, and it takes the address
    of the values at these paths, the last one first. -/
inductive Expr.ChainOn (var : String) : Expr → Path → List Path → Prop where
  | ident : ChainOn var (.ident var) [] []
  | selector {e : Expr} {path : Path} {taken : List Path} (field : String) :
    ChainOn var e path taken →
    ChainOn var (.selector e field) (path ++ [field]) taken
  | index {e : Expr} {path : Path} {taken : List Path} {operands : List Expr} :
    (∀ operand ∈ operands, operand.SelectorFree) →
    ChainOn var e path taken →
    ChainOn var (.index e operands) path taken
  | paren {e : Expr} {path : Path} {taken : List Path} :
    ChainOn var e path taken →
    ChainOn var (.paren e) path taken
  | deref {e : Expr} {path : Path} {taken : List Path} :
    ChainOn var e path taken →
    ChainOn var (.unary "*" e) path taken
  | address {e : Expr} {path : Path} {taken : List Path} :
    ChainOn var e path taken →
    ChainOn var (.unary "&" e) path (path :: taken)

namespace Expr.ChainOn

variable {var : String} {e : Expr} {path : Path} {taken : List Path}

/-- Read from the outside, a chain has the path that it selects. -/
lemma chain?_eq (h : e.ChainOn var path taken) : e.chain? = some (var, path) := by
  induction h with
  | ident => rfl
  | selector field _ ih => rw [Expr.chain?, ih, Option.map_some]
  | index _ _ ih => exact ih
  | paren _ ih => exact ih
  | deref _ ih => exact ih
  | address _ ih => exact ih

/-- The paths whose address is taken lie on the path of the chain. -/
lemma taken_prefix_path (h : e.ChainOn var path taken) : ∀ q ∈ taken, q <+: path := by
  induction h with
  | ident => exact fun _ hq => absurd hq List.not_mem_nil
  | selector field _ ih => exact fun q hq => (ih q hq).trans (List.prefix_append _ [field])
  | index _ _ ih => exact ih
  | paren _ ih => exact ih
  | deref _ ih => exact ih
  | address _ ih =>
    intro q hq
    rcases List.mem_cons.1 hq with rfl | hq
    · exact List.prefix_refl q
    · exact ih q hq

end Expr.ChainOn

namespace VariableUsage

/-! ## Reads of paths -/

/-- The fields at these paths are read; the empty path stands for the variable itself, of which nothing
    is recorded. -/
def reads (paths : List Path) : VariableUsage :=
  mergeAll ((paths.filter (!·.isEmpty)).map (ofAccess · .read))

/-- One more path is read besides the others. -/
lemma reads_cons {p : Path} (hp : p ≠ []) (ps : List Path) :
    reads (p :: ps) = (ofAccess p .read).merge (reads ps) := by
  have hf : (p :: ps).filter (!·.isEmpty) = p :: ps.filter (!·.isEmpty) :=
    List.filter_cons_of_pos (by simpa using hp)
  rw [reads, hf, List.map_cons, mergeAll_cons, reads]

/-- Only which paths are read matters, not in which order or how often. -/
lemma reads_congr {ps qs : List Path} (h : ∀ p ≠ [], p ∈ ps ↔ p ∈ qs) : reads ps = reads qs := by
  have kept (p : Path) : p ∈ ps.filter (!·.isEmpty) ↔ p ∈ qs.filter (!·.isEmpty) := by
    rw [List.mem_filter, List.mem_filter]
    exact and_congr_left fun hp => h p (by simpa using hp)
  apply mergeAll_congr
  intro u
  simp only [List.mem_map, kept]

/-- The tree of reads has a unit below each path. -/
lemma tree_reads (ps : List Path) :
    (reads ps).tree = .mergeAll ((ps.filter (!·.isEmpty)).map fun p => .below p .unit) := by
  rw [reads, tree_mergeAll, List.map_map]
  rfl

/-- The fields that are read are the first ones of the paths. -/
lemma mem_fields_reads {ps : List Path} {name : String} :
    name ∈ (reads ps).fields ↔ ∃ p ∈ ps, p.head? = some name := by
  rw [reads, mem_mergeAll_iff rfl fun _ _ => rfl]
  constructor
  · rintro ⟨u, hu, hn⟩
    obtain ⟨p, hp, rfl⟩ := List.mem_map.1 hu
    exact ⟨p, (List.mem_filter.1 hp).1, by simpa [ofAccess] using hn⟩
  · rintro ⟨p, hp, hn⟩
    have hne : (!p.isEmpty) = true := by
      cases p with
      | nil => cases hn
      | cons => rfl
    exact ⟨_, List.mem_map.2 ⟨p, List.mem_filter.2 ⟨hp, hne⟩, rfl⟩, by simp [ofAccess, hn]⟩

/-- Reading calls no method, and ignores none. -/
lemma methods_ignored_reads (ps : List Path) : (reads ps).methods = ∅ ∧ (reads ps).ignored = ∅ := by
  have key {names : VariableUsage → NameSet} (h0 : names ∅ = ∅)
      (hm : ∀ u v, names (u.merge v) = names u ∪ names v)
      (hr : ∀ p, names (ofAccess p .read) = ∅) : names (reads ps) = ∅ := by
    apply OrderedSet.ext_mem
    intro name
    rw [reads, mem_mergeAll_iff h0 hm]
    simp [hr]
  exact ⟨key rfl (fun _ _ => rfl) fun _ => rfl, key rfl (fun _ _ => rfl) fun _ => rfl⟩

/-- The values consumed as a unit are those at the paths. -/
lemma wholeAt_reads {ps : List Path} {q : Path} :
    (reads ps).tree.wholeAt q = true ↔ q ≠ [] ∧ q ∈ ps := by
  rw [tree_reads, Usage.wholeAt_mergeAll]
  constructor
  · rintro ⟨u, hu, hq⟩
    obtain ⟨p, hp, rfl⟩ := List.mem_map.1 hu
    obtain ⟨hp, hne⟩ := List.mem_filter.1 hp
    obtain rfl : q = p := by simpa [Usage.wholeAt_below] using hq
    exact ⟨by simpa using hne, hp⟩
  · rintro ⟨hne, hq⟩
    exact ⟨_, List.mem_map.2 ⟨q, List.mem_filter.2 ⟨hq, by simpa using hne⟩, rfl⟩,
      by simp [Usage.wholeAt_below]⟩

/-- The nodes of reads are those on the way to some path. -/
lemma hasNode_reads {ps : List Path} {q : Path} (hq : q ≠ []) :
    (reads ps).tree.hasNode q = true ↔ ∃ p ∈ ps, q <+: p := by
  obtain ⟨name, rest, rfl⟩ := List.exists_cons_of_ne_nil hq
  rw [tree_reads, Usage.hasNode_mergeAll, List.any_map, List.any_eq_true]
  have below (p : Path) : (Usage.below p .unit).hasNode (name :: rest) = true ↔ name :: rest <+: p := by
    rw [Usage.hasNode_below]
    constructor
    · rintro (h | ⟨r, e, hr⟩)
      · exact h
      · cases r with
        | nil => rw [e, List.append_nil]
        | cons => cases hr
    · exact .inl
  constructor
  · rintro ⟨p, hp, h⟩
    exact ⟨p, (List.mem_filter.1 hp).1, (below p).1 h⟩
  · rintro ⟨p, hp, h⟩
    have hne : p ≠ [] := fun e => hq (List.prefix_nil.1 (e ▸ h))
    exact ⟨p, List.mem_filter.2 ⟨hp, by simpa using hne⟩, (below p).2 h⟩

/-- Reading calls no method anywhere. -/
lemma methodsAt_reads (ps : List Path) (q : Path) : (reads ps).tree.methodsAt q = ∅ := by
  apply OrderedSet.ext_mem
  intro method
  rw [tree_reads, Usage.mem_methodsAt_mergeAll]
  simp [Usage.mem_methodsAt_below]

/-- Reads along one path make the nodes of that path. -/
lemma isSome_node?_reads {ps : List Path} {path : Path} (h : path ∈ ps)
    (above : ∀ p ∈ ps, p <+: path) (q : Path) :
    ((reads ps).tree.node? q).isSome = true ↔ q <+: path := by
  rw [Usage.isSome_node?]
  by_cases hq : q = []
  · subst hq
    exact iff_of_true rfl List.nil_prefix
  · rw [hasNode_reads hq]
    constructor
    · rintro ⟨p, hp, hqp⟩
      exact hqp.trans (above p hp)
    · intro hqp
      exact ⟨path, h, hqp⟩

/-- Reads along one path read its first field alone. -/
lemma fields_reads {ps : List Path} {first : String} {rest : Path} (h : first :: rest ∈ ps)
    (above : ∀ p ∈ ps, p <+: first :: rest) : (reads ps).fields = {first} := by
  apply OrderedSet.ext_mem
  intro name
  rw [mem_fields_reads, OrderedSet.mem_singleton]
  constructor
  · rintro ⟨p, hp, hn⟩
    cases p with
    | nil => cases hn
    | cons n p =>
      cases hn
      exact (List.cons_prefix_cons.1 (above _ hp)).1
  · rintro rfl
    exact ⟨_, h, rfl⟩

/-- Reads leave one whole value at the end of a path exactly if no other path is read. -/
lemma hangsAt_reads_iff {ps : List Path} {path : Path} (hne : path ≠ []) (h : path ∈ ps) :
    Usage.HangsAt path .unit (reads ps).tree ↔ ∀ q ∈ ps, q = [] ∨ q = path := by
  constructor
  · intro hang q hq
    by_cases hq' : q = []
    · exact .inl hq'
    · obtain ⟨r, e, hr⟩ := (hang.whole q).1 (wholeAt_reads.2 ⟨hq', hq⟩)
      rw [Usage.wholeAt_unit] at hr
      exact .inr (by rw [e, hr, List.append_nil])
  · intro hq
    have one : reads ps = reads [path] := by
      apply reads_congr
      intro p hp
      rw [List.mem_singleton]
      exact ⟨fun hm => (hq p hm).resolve_left hp, fun e => e ▸ h⟩
    have tree : (reads [path]).tree = .below path .unit := by
      rw [reads_cons hne]
      exact Usage.merge_empty _
    rw [one, tree]
    exact Usage.hangsAt_below path .unit

/-! ## The walk along a chain -/

/-- Empty usages merge to the empty one. -/
lemma mergeAll_eq_empty {us : List VariableUsage} (h : ∀ u ∈ us, u = ∅) : mergeAll us = ∅ := by
  induction us with
  | nil => rfl
  | cons u us ih =>
    obtain ⟨hu, hus⟩ := List.forall_mem_cons.1 h
    rw [mergeAll_cons, hu, ih hus, empty_merge]

/-- Where no selector stands, nothing is recorded. -/
lemma collectFrom_of_selectorFree {e : Expr} (h : e.SelectorFree) (var : String)
    (frames : List Frame) : collectFrom var frames (.expr e) = ∅ := by
  apply mergeAll_eq_empty
  intro u hu
  obtain ⟨v, hv, rfl⟩ := List.mem_map.1 hu
  rcases ofVisit_cases var v with e | ⟨base, field, path, hn, _, _⟩
  · exact e
  · exact absurd (hn ▸ Node.Contains.of_visit hv) (h base field)

/-- A node that is no selector and has one part does what the part does. -/
lemma collectFrom_of_one_part {n child : Node} {role : Role} (hn : n.selected? = none)
    (hc : n.children = [(role, child)]) (var : String) (frames : List Frame) :
    collectFrom var frames n = collectFrom var (⟨n, role⟩ :: frames) child := by
  rw [collectFrom_of_not_selector hn, hc]
  exact merge_empty _

/-- A selector is read at its own path, unless the chain goes on around it. -/
lemma ofVisit_selector {base : Expr} {field var : String} {path : Path} {frames : List Frame}
    (hc : (Expr.selector base field).chain? = some (var, path))
    (ha : Access.ofFrames frames = .read) :
    ofVisit var ⟨.expr (.selector base field), frames⟩ =
      if chainGoesOn frames then ∅ else ofAccess path .read := by
  simp [ofVisit, hc, ha]

/-- A chain on a variable, within frames that read it, is recorded at the paths whose address it takes
    and, unless it goes on, at its own path. -/
lemma collectFrom_chain {var : String} {e : Expr} {path : Path} {taken : List Path}
    (h : e.ChainOn var path taken) (frames : List Frame) (ha : Access.ofFrames frames = .read) :
    collectFrom var frames (.expr e) =
      reads (if chainGoesOn frames then taken else path :: taken) := by
  -- the frames are general, since each link adds one; a link is never a call or an assignment
  induction h generalizing frames with
  | ident =>
    rw [collectFrom_of_not_selector rfl]
    split <;> rfl
  | @selector e path taken field h ih =>
    have own := ofVisit_selector (Expr.ChainOn.selector field h).chain?_eq ha
    have inner := ih (⟨.expr (.selector e field), .selected⟩ :: frames) rfl
    have on : chainGoesOn (⟨.expr (.selector e field), .selected⟩ :: frames) = true := rfl
    rw [on, if_pos rfl] at inner
    rw [collectFrom_eq, own]
    simp only [Node.children, List.map_cons, List.map_nil, mergeAll_cons, mergeAll_nil, merge_empty,
      inner]
    split
    · exact empty_merge _
    · exact (reads_cons (by simp) taken).symm
  | @index e path taken operands hf _ ih =>
    have inner := ih (⟨.expr (.index e operands), .indexed⟩ :: frames) rfl
    have on : chainGoesOn (⟨.expr (.index e operands), .indexed⟩ :: frames) = chainGoesOn frames := rfl
    have rest : mergeAll ((Node.exprParts operands).map fun p =>
        collectFrom var (⟨.expr (.index e operands), p.1⟩ :: frames) p.2) = ∅ := by
      apply mergeAll_eq_empty
      intro u hu
      obtain ⟨p, hp, rfl⟩ := List.mem_map.1 hu
      obtain ⟨operand, ho, rfl⟩ := Node.mem_exprParts.1 hp
      exact collectFrom_of_selectorFree (hf operand ho) var _
    rw [collectFrom_of_not_selector rfl, Node.children, List.map_cons, mergeAll_cons, rest, merge_empty,
      inner, on]
  | @paren e path taken _ ih =>
    rw [collectFrom_of_one_part rfl rfl]
    exact ih (⟨.expr (.paren e), .enclosed⟩ :: frames) rfl
  | @deref e path taken _ ih =>
    rw [collectFrom_of_one_part rfl rfl]
    exact ih (⟨.expr (.unary "*" e), .operand "*"⟩ :: frames) rfl
  | @address e path taken _ ih =>
    rw [collectFrom_of_one_part rfl rfl, ih (⟨.expr (.unary "&" e), .operand "&"⟩ :: frames) rfl]
    -- the chain does not go on over `&`, so that the path is recorded here in any case
    apply reads_congr
    intro p _
    have off : chainGoesOn (⟨.expr (.unary "&" e), .operand "&"⟩ :: frames) = false := rfl
    rw [off, if_neg Bool.false_ne_true]
    split <;> simp

/-- A chain of selectors reads its path and the paths whose address it takes. -/
lemma collect_chain_eq {var : String} {e : Expr} {path : Path} {taken : List Path}
    (h : e.ChainOn var path taken) : collect [.expr e] var = reads (path :: taken) := by
  rw [collect_eq, List.map_singleton, mergeAll_cons, mergeAll_nil, merge_empty,
    collectFrom_of_one_part rfl rfl]
  exact collectFrom_chain h [⟨.stmt (.expr e), .part⟩] rfl

end VariableUsage

/-! ## What a chain leaves behind -/

/-- A chain that stands alone records its first field and nothing else by name. Its tree has a node for
    each field on the way and no other. The nodes that are consumed as units are the last one and those
    whose address the chain takes, so that the last one is the only one exactly if no address is taken
    between two selections. -/
theorem collect_chain {var first : String} {rest : Path} {e : Expr} {taken : List Path}
    (h : e.ChainOn var (first :: rest) taken) :
    (VariableUsage.collect [.expr e] var).fields = {first} ∧
      (VariableUsage.collect [.expr e] var).methods = ∅ ∧
      (VariableUsage.collect [.expr e] var).ignored = ∅ ∧
      (∀ q, ((VariableUsage.collect [.expr e] var).tree.node? q).isSome = true ↔
        q <+: first :: rest) ∧
      (∀ q, (VariableUsage.collect [.expr e] var).tree.wholeAt q = true ↔
        q = first :: rest ∨ q ≠ [] ∧ q ∈ taken) ∧
      (∀ q, (VariableUsage.collect [.expr e] var).tree.methodsAt q = ∅) ∧
      (Usage.HangsAt (first :: rest) .unit (VariableUsage.collect [.expr e] var).tree ↔
        ∀ q ∈ taken, q = [] ∨ q = first :: rest) := by
  have last : first :: rest ∈ (first :: rest) :: taken := List.mem_cons_self
  have above : ∀ q ∈ (first :: rest) :: taken, q <+: first :: rest := by
    intro q hq
    rcases List.mem_cons.1 hq with rfl | hq
    · exact List.prefix_refl _
    · exact h.taken_prefix_path q hq
  rw [VariableUsage.collect_chain_eq h]
  obtain ⟨methods, ignored⟩ := VariableUsage.methods_ignored_reads ((first :: rest) :: taken)
  refine ⟨VariableUsage.fields_reads last above, methods, ignored,
    VariableUsage.isSome_node?_reads last above, ?_, VariableUsage.methodsAt_reads _, ?_⟩
  · intro q
    rw [VariableUsage.wholeAt_reads, List.mem_cons]
    constructor
    · rintro ⟨hq, e | ht⟩
      · exact .inl e
      · exact .inr ⟨hq, ht⟩
    · rintro (rfl | ⟨hq, ht⟩)
      · exact ⟨List.cons_ne_nil _ _, .inl rfl⟩
      · exact ⟨hq, .inr ht⟩
  · rw [VariableUsage.hangsAt_reads_iff (List.cons_ne_nil _ _) last, List.forall_mem_cons]
    exact and_iff_right (.inr rfl)

namespace Sample

/-- The chain `&(*u.Profiles[i]).Name`. -/
def profileName : Expr :=
  .unary "&" (.selector (.paren (.unary "*" (.index (.selector (.ident "u") "Profiles") [.ident "i"])))
    "Name")

/-- The chain `(&u.Owner).Name`. -/
def ownerName : Expr := .selector (.paren (.unary "&" (.selector (.ident "u") "Owner"))) "Name"

end Sample

/-- An address that is taken at the end leaves a chain with one record. -/
theorem collect_chain_profile :
    Sample.profileName.ChainOn "u" ["Profiles", "Name"] [["Profiles", "Name"]] ∧
      Usage.HangsAt ["Profiles", "Name"] .unit
        (VariableUsage.collect [.expr Sample.profileName] "u").tree := by
  have free : ∀ operand ∈ [Expr.ident "i"], operand.SelectorFree := by
    intro operand ho base field hc
    obtain rfl := List.mem_singleton.1 ho
    cases hc with
    | part hp _ => cases hp
  have chain : Sample.profileName.ChainOn "u" ["Profiles", "Name"] [["Profiles", "Name"]] :=
    .address (.selector "Name" (.paren (.deref (.index free (.selector "Profiles" .ident)))))
  obtain ⟨_, _, _, _, _, _, hang⟩ := collect_chain chain
  exact ⟨chain, hang.2 fun q hq => .inr (List.mem_singleton.1 hq)⟩

/-- A chain over an address is recorded twice: `Owner` is consumed as a unit, though only its name is
    selected. -/
theorem collect_chain_address :
    Sample.ownerName.ChainOn "u" ["Owner", "Name"] [["Owner"]] ∧
      (VariableUsage.collect [.expr Sample.ownerName] "u").tree.wholeAt ["Owner"] = true ∧
      ¬ Usage.HangsAt ["Owner", "Name"] .unit
        (VariableUsage.collect [.expr Sample.ownerName] "u").tree := by
  have whole : (VariableUsage.collect [.expr Sample.ownerName] "u").tree.wholeAt ["Owner"] = true := by
    decide +kernel
  refine ⟨.selector "Name" (.paren (.address (.selector "Owner" .ident))), whole, ?_⟩
  intro hang
  obtain ⟨r, e, _⟩ := (hang.whole ["Owner"]).1 whole
  simp at e

end FieldAudit
