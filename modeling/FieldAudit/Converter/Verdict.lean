import FieldAudit.Converter.Pair
import FieldAudit.Converter.Policy
import FieldAudit.Types.Resolve
import FieldAudit.Usage.Delegation
import FieldAudit.Usage.Output

/-!
# Verdicts

A converter is judged by what its body reads of the source and supplies to the destination. It is
complete if no field is missing on either side.
-/

namespace FieldAudit

/-- The verdict on a converter. -/
structure Verdict where
  valid : Bool
  kind : ConverterKind
  /-- Not looked into, because every element is handed to another function. -/
  delegating : Bool := false
  /-- The fields of the source that are never read, below the name of the source variable. -/
  missingSource : List String := []
  /-- The fields of the destination that are never set, below the name of a named result. -/
  missingDest : List String := []
deriving Inhabited

/-- All missing fields, those of the source first. -/
def Verdict.missing (v : Verdict) : List String := v.missingSource ++ v.missingDest

/-- Why a function cannot be judged. -/
inductive Refusal where
  | unresolvedSignature
  | missingParamsOrResults
  | noInputCandidate
  | noOutputCandidate
  | unnamedSource
deriving DecidableEq, Inhabited

/-- The description of a refusal, given the name of the function. -/
def Refusal.message (function : String) : Refusal → String
  | .unresolvedSignature =>
    "function " ++ Text.quoted function ++ " does not have a resolvable signature"
  | .missingParamsOrResults =>
    "function " ++ Text.quoted function ++ " must have at least one parameter and one result"
  | .noInputCandidate =>
    "cannot determine candidate input parameter for function " ++ Text.quoted function
  | .noOutputCandidate =>
    "cannot determine candidate output parameter for function " ++ Text.quoted function
  | .unnamedSource =>
    "input parameter of function " ++ Text.quoted function
      ++ " is unnamed, so its field reads cannot be traced"

/-- The pair to judge: that of the converter, else the first candidates on each side. -/
def selectPair (settings : Settings) (table : TypeTable) (decl : FuncDecl) (sig : Signature) :
    Except Refusal ConverterPair :=
  match classify settings table decl sig.params sig.results with
  | some pair => .ok pair
  | none => match firstCandidate? table decl.params sig.params with
    | none => .error .noInputCandidate
    | some source => match firstCandidate? table decl.results sig.results with
      | none => .error .noOutputCandidate
      | some dest => .ok (.of decl source dest)

/-- What a body does with a source variable, the element variable of a range over it included. -/
def Block.sourceUsage (body : Block) (shape : Shape) (var : String) : VariableUsage :=
  let own := VariableUsage.collect body var
  if shape.isSingle then own
  else match Block.rangeElement? body var with
    | some element => own.merge (VariableUsage.collect body element)
    | none => own

/-- Whether a body from one shape to another hands every element to another function. -/
def Block.isDelegating (body : Block) (source dest : Shape) (var : String) : Bool :=
  source == .sequence && dest == .sequence && Block.forwardsElements body var

/-- Paths below the name of a variable, if there is one. -/
def qualify (var : Option String) (paths : List String) : List String :=
  match var with
  | some v => paths.map fun path => v ++ "." ++ path
  | none => paths

/-- The verdict on a body that is looked into. -/
def judgeBody (settings : Settings) (table : TypeTable) (pair : ConverterPair) (var : String)
    (body : Block) : Verdict :=
  let source := pair.source.candidate
  let dest := pair.dest.candidate
  let read := (Block.sourceUsage body source.shape var).tree
  let supplied := (Block.outputUsage body pair.dest.name dest.name).usage.tree
  let missingSource := missingFields settings table .source read source.fields dest.fields
  let missingDest := missingFields settings table .destination supplied dest.fields source.fields
  { valid := missingSource.isEmpty && missingDest.isEmpty
    kind := pair.kind
    missingSource := qualify (some var) missingSource
    missingDest := qualify pair.dest.name missingDest }

/-- The verdict on a function as a converter. -/
def judge (settings : Settings) (table : TypeTable) (decl : FuncDecl) (sig : Signature) :
    Except Refusal Verdict :=
  if sig.params.isEmpty || sig.results.isEmpty then .error .missingParamsOrResults
  else do
    let pair ← selectPair settings table decl sig
    match pair.source.name with
    | none => throw .unnamedSource
    | some var => match decl.body with
      | none => return { valid := true, kind := pair.kind }
      | some body =>
        if Block.isDelegating body pair.source.candidate.shape pair.dest.candidate.shape var then
          return { valid := true, kind := pair.kind, delegating := true }
        else return judgeBody settings table pair var body

end FieldAudit
