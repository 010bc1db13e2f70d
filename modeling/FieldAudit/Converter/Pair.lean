import FieldAudit.Converter.Candidate
import FieldAudit.Settings.Basic
import FieldAudit.Similarity
import FieldAudit.Syntax.Basic

/-!
# Converters

A function is a converter if a struct among its parameters and a struct among its results are
different types of compatible shapes with related names, such as `User` and `UserDTO`. Only the
signature is looked at.
-/

namespace FieldAudit

/-- How values flow through a converter. -/
inductive Conversion where
  | value
  | pointer
  | slice
  | map
  /-- From a sequence to a single struct. -/
  | aggregating
deriving DecidableEq, Inhabited

namespace Conversion

/-- The word for a conversion. -/
def name : Conversion → String
  | value => "value"
  | pointer => "pointer"
  | slice => "slice"
  | map => "map"
  | aggregating => "aggregating"

/-- The conversion between two shapes. -/
def ofShapes : Shape → Shape → Conversion
  | .sequence, .sequence => slice
  | .mapping, .mapping => map
  | .sequence, _ => aggregating
  | .value, .value => value
  | _, _ => pointer

end Conversion

/-- The kind of a converter. -/
structure ConverterKind where
  conversion : Conversion := .value
  method : Bool := false
deriving DecidableEq, Inhabited

/-- The label of a kind, such as `slice method converter`. -/
def ConverterKind.label (k : ConverterKind) : String :=
  k.conversion.name ++ (if k.method then " method converter" else " converter")

/-- A place in a signature that holds a candidate. -/
structure CandidateParam where
  index : Nat
  /-- The declared name; a blank one counts as none. -/
  name : Option String
  candidate : Candidate
deriving Inhabited

/-- The source and the destination of a converter. -/
structure ConverterPair where
  source : CandidateParam
  dest : CandidateParam
  kind : ConverterKind
deriving Inhabited

/-- Whether a source of one shape can be converted to a destination of another. -/
def Shape.compatible (settings : Settings) : Shape → Shape → Bool
  | .sequence, .sequence => true
  | .mapping, .mapping => true
  | .sequence, dest => settings.allowAggregating && dest.isSingle
  | .mapping, _ => false
  | .value, dest => dest.isSingle
  | .pointer, dest => dest.isSingle

/-- Whether the names of two types match: one contains the other, or they are similar enough. -/
def typeNamesMatch (settings : Settings) (source dest : String) : Bool :=
  namesRelated source dest
    || (settings.minSimilarity > 0 && similarity source dest > settings.minSimilarity)

/-- The candidates among parameters with these types. -/
def candidateParams (table : TypeTable) (params : List Param) (types : List Ty) :
    List CandidateParam :=
  (params.zip types).zipIdx.filterMap fun ((param, type), index) =>
    (table.candidate? type).map fun candidate =>
      { index, name := param.name.filter (· != "_"), candidate }

/-- Whether a source and a destination make a converter. -/
def qualifies (settings : Settings) (source dest : CandidateParam) : Bool :=
  source.candidate.identity != dest.candidate.identity
    && Shape.compatible settings source.candidate.shape dest.candidate.shape
    && typeNamesMatch settings source.candidate.name dest.candidate.name

/-- The pair of a source and a destination, with its kind. -/
def ConverterPair.of (decl : FuncDecl) (source dest : CandidateParam) : ConverterPair :=
  { source, dest
    kind := { conversion := .ofShapes source.candidate.shape dest.candidate.shape
              method := decl.isMethod } }

/-- The source and destination of a function, if it is a converter: the first qualifying pair, by
    the position of the source and then of the destination. -/
def classify (settings : Settings) (table : TypeTable) (decl : FuncDecl)
    (params results : List Ty) : Option ConverterPair :=
  if decl.isMethod && !settings.includeMemberFunctions then none
  else if params.isEmpty || results.isEmpty then none
  else
    (candidateParams table decl.params params).findSome? fun source =>
      ((candidateParams table decl.results results).find? (qualifies settings source)).map
        (ConverterPair.of decl source)

/-- The first candidate among parameters. -/
def firstCandidate? (table : TypeTable) (params : List Param) (types : List Ty) :
    Option CandidateParam :=
  (candidateParams table params types).head?

end FieldAudit
