import Mathlib
import FieldAudit.Converter.Verdict

/-!
# How a function is judged

The three ways in which a function gets a verdict: it has no body, it hands every element to another
function, or its body is looked into. Only the last one can find something missing.
-/

namespace FieldAudit

section

variable {settings : Settings} {table : TypeTable} {decl : FuncDecl} {sig : Signature}

/-- No parameters, no candidates. -/
@[simp] lemma candidateParams_nil (table : TypeTable) (params : List Param) :
    candidateParams table params [] = [] := by
  simp [candidateParams]

/-- A function for which a pair is selected has parameters and results. -/
lemma selectPair_ne_nil {pair : ConverterPair} (hp : selectPair settings table decl sig = .ok pair) :
    sig.params ≠ [] ∧ sig.results ≠ [] := by
  constructor
  · intro e
    simp [selectPair, classify, firstCandidate?, e] at hp
  · intro e
    simp only [selectPair, classify, firstCandidate?, e, List.isEmpty_nil, Bool.or_true, if_true,
      ite_self, candidateParams_nil, List.head?_nil] at hp
    split at hp <;> cases hp

/-- The source and the destination of a converter stand among its parameters and its results. -/
lemma mem_of_classify {params results : List Ty} {pair : ConverterPair}
    (hp : classify settings table decl params results = some pair) :
    pair.source ∈ candidateParams table decl.params params ∧
      pair.dest ∈ candidateParams table decl.results results := by
  unfold classify at hp
  split at hp
  · cases hp
  · split at hp
    · cases hp
    · obtain ⟨source, hs, hp⟩ := List.exists_of_findSome?_eq_some hp
      obtain ⟨dest, hd, rfl⟩ := Option.map_eq_some_iff.1 hp
      exact ⟨hs, List.mem_of_find?_eq_some hd⟩

/-- The selected source and destination stand among the parameters and the results. -/
lemma mem_of_selectPair {pair : ConverterPair}
    (hp : selectPair settings table decl sig = .ok pair) :
    pair.source ∈ candidateParams table decl.params sig.params ∧
      pair.dest ∈ candidateParams table decl.results sig.results := by
  unfold selectPair at hp
  split at hp
  · rename_i pair' hc
    cases hp
    exact mem_of_classify hc
  · split at hp
    · cases hp
    · rename_i source hs
      split at hp
      · cases hp
      · rename_i dest hd
        cases hp
        exact ⟨List.mem_of_head? hs, List.mem_of_head? hd⟩

/-- The name of a candidate is not blank. -/
lemma ne_blank_of_mem_candidateParams {params : List Param} {types : List Ty} {c : CandidateParam}
    {name : String} (hc : c ∈ candidateParams table params types) (hn : c.name = some name) :
    name ≠ "_" := by
  obtain ⟨⟨⟨param, type⟩, index⟩, _, h⟩ := List.mem_filterMap.1 hc
  obtain ⟨candidate, _, rfl⟩ := Option.map_eq_some_iff.1 h
  simpa using (Option.filter_eq_some_iff.1 hn).2

/-- The verdict on a function whose body is looked into. -/
lemma judge_of_body {pair : ConverterPair} {var : String} {body : Block}
    (hp : selectPair settings table decl sig = .ok pair) (hx : pair.source.name = some var)
    (hb : decl.body = some body)
    (hd : Block.isDelegating body pair.source.candidate.shape pair.dest.candidate.shape var = false) :
    judge settings table decl sig = .ok (judgeBody settings table pair var body) := by
  obtain ⟨h1, h2⟩ := selectPair_ne_nil hp
  have hne : (sig.params.isEmpty || sig.results.isEmpty) = false := by simp [h1, h2]
  simp only [judge, hne, hp, bind, Except.bind, hx, hb, hd]
  rfl

/-- The verdict on a function once its source and its destination are known. -/
def verdictOn (settings : Settings) (table : TypeTable) (pair : ConverterPair) (var : String)
    (body : Option Block) : Verdict :=
  body.elim { valid := true, kind := pair.kind } fun body =>
    if Block.isDelegating body pair.source.candidate.shape pair.dest.candidate.shape var then
      { valid := true, kind := pair.kind, delegating := true }
    else judgeBody settings table pair var body

/-- A function is judged in three steps: it needs parameters and results, a source and a destination,
    and a name for the source. All else is the verdict on the pair. -/
lemma judge_eq :
    judge settings table decl sig =
      if sig.params.isEmpty || sig.results.isEmpty then .error .missingParamsOrResults
      else (selectPair settings table decl sig).bind fun pair =>
        pair.source.name.elim (.error .unnamedSource) fun var =>
          .ok (verdictOn settings table pair var decl.body) := by
  unfold judge
  split
  · rfl
  · cases selectPair settings table decl sig with
    | error r => rfl
    | ok pair =>
      simp only [bind, Except.bind]
      cases pair.source.name with
      | none => rfl
      | some var =>
        cases decl.body with
        | none => rfl
        | some body =>
          simp only [verdictOn, Option.elim_some]
          split <;> rfl

/-- The ways in which a function gets a verdict. -/
inductive Judged (settings : Settings) (table : TypeTable) (decl : FuncDecl) (sig : Signature) :
    Verdict → Prop where
  | noBody {pair : ConverterPair} {var : String} :
    selectPair settings table decl sig = .ok pair →
    pair.source.name = some var →
    decl.body = none →
    Judged settings table decl sig { valid := true, kind := pair.kind }
  | delegating {pair : ConverterPair} {var : String} {body : Block} :
    selectPair settings table decl sig = .ok pair →
    pair.source.name = some var →
    decl.body = some body →
    Block.isDelegating body pair.source.candidate.shape pair.dest.candidate.shape var = true →
    Judged settings table decl sig { valid := true, kind := pair.kind, delegating := true }
  | body {pair : ConverterPair} {var : String} {body : Block} :
    selectPair settings table decl sig = .ok pair →
    pair.source.name = some var →
    decl.body = some body →
    Block.isDelegating body pair.source.candidate.shape pair.dest.candidate.shape var = false →
    Judged settings table decl sig (judgeBody settings table pair var body)

/-- Every verdict comes about in one of these ways. -/
lemma judged_of_judge {v : Verdict} (h : judge settings table decl sig = .ok v) :
    Judged settings table decl sig v := by
  unfold judge at h
  -- the guards in their order: types, pair, name of the source, body, delegation
  split at h
  · cases h
  · cases hp : selectPair settings table decl sig with
    | error r =>
      rw [hp] at h
      cases h
    | ok pair =>
      simp only [hp, bind, Except.bind] at h
      split at h
      · cases h
      · rename_i var hx
        split at h
        · rename_i hb
          cases h
          exact .noBody hp hx hb
        · rename_i body hb
          split at h
          · rename_i hd
            cases h
            exact .delegating hp hx hb hd
          · rename_i hd
            cases h
            exact .body hp hx hb (by simpa using hd)

/-- Naming the variable neither adds nor removes paths. -/
@[simp] lemma qualify_eq_nil {var : Option String} {paths : List String} :
    qualify var paths = [] ↔ paths = [] := by
  cases var <;> simp [qualify]

/-- A body that is looked into is valid exactly if nothing is missing on either side. -/
lemma judgeBody_valid {pair : ConverterPair} {var : String} {body : Block} :
    (judgeBody settings table pair var body).valid = true ↔
      (judgeBody settings table pair var body).missingSource = [] ∧
        (judgeBody settings table pair var body).missingDest = [] := by
  simp [judgeBody]

/-- A body with something missing is not valid. -/
lemma judgeBody_invalid {pair : ConverterPair} {var path : String} {body : Block}
    (hm : path ∈ (judgeBody settings table pair var body).missing) :
    (judgeBody settings table pair var body).valid = false := by
  rw [Bool.eq_false_iff]
  intro hv
  obtain ⟨e1, e2⟩ := judgeBody_valid.1 hv
  rw [Verdict.missing, e1, e2] at hm
  cases hm

/-- A verdict that is not valid has something missing and is not delegating. -/
lemma missing_of_invalid {v : Verdict} (h : judge settings table decl sig = .ok v)
    (hv : v.valid = false) : v.delegating = false ∧ v.missing ≠ [] := by
  cases judged_of_judge h with
  | noBody _ _ _ => cases hv
  | delegating _ _ _ _ => cases hv
  | body _ _ _ _ =>
    refine ⟨rfl, fun e => ?_⟩
    obtain ⟨e1, e2⟩ := List.append_eq_nil_iff.1 e
    rw [judgeBody_valid.2 ⟨e1, e2⟩] at hv
    cases hv

end

namespace Sample

/-- A field of a basic type. -/
def text (name : String) : FieldDef Ty :=
  { name, exported := isExported name, type := .basic "string" }

/-- Two structs of related names with the same fields. -/
def table : TypeTable :=
  { types := [{ key := ⟨"", "User"⟩, definition := .struct [text "ID", text "Name"] },
      { key := ⟨"", "UserDTO"⟩, definition := .struct [text "ID", text "Name"] }] }

/-- The signature `(User) UserDTO`. -/
def sig : Signature := ⟨[.named ⟨"", "User"⟩], [.named ⟨"", "UserDTO"⟩]⟩

/-- The function `ToDTO(u User) UserDTO` with this body. -/
def toDTO (body : Block) : FuncDecl :=
  { name := "ToDTO"
    params := [⟨some "u", .named none "User"⟩]
    results := [⟨none, .named none "UserDTO"⟩]
    body := some body }

/-- The source and the destination of `ToDTO`. -/
def pair (body : Block) : ConverterPair :=
  .of (toDTO body)
    ⟨0, some "u", ⟨"User", .value, table.flatten 4 none [text "ID", text "Name"], ⟨"", "User"⟩⟩⟩
    ⟨0, none, ⟨"UserDTO", .value, table.flatten 4 none [text "ID", text "Name"], ⟨"", "UserDTO"⟩⟩⟩

/-- The pair of `ToDTO` is selected whatever its body is. -/
lemma selectPair_toDTO (body : Block) :
    selectPair {} table (toDTO body) sig = .ok (pair body) := rfl

/-- The function `ToDTO(u User) (out UserDTO)` with this body. -/
def toNamedDTO (body : Block) : FuncDecl :=
  { toDTO body with results := [⟨some "out", .named none "UserDTO"⟩] }

/-- The statement `out.name = u.name`. -/
def copy (name : String) : Stmt :=
  .assign [.selector (.ident "out") name] .assign [.selector (.ident "u") name]

end Sample

end FieldAudit
