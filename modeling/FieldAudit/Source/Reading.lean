import FieldAudit.Syntax.Basic

/-!
# Values and types

Without knowing what names stand for, `a[b]` may be an element of a list or a generic type, and
`(*T)(x)` a call or a conversion. An operand is therefore read as a value and as a type at once, as
far as either is possible, and what follows it decides.
-/

namespace FieldAudit.Source

/-- How a type is spelled. -/
inductive TypeForm where
  /-- `T` -/
  | name
  /-- `p.T` -/
  | qualified
  /-- `T[A]` or `p.T[A]` -/
  | generic
  /-- A struct, map, slice or array type, which may begin a literal. -/
  | literal
  /-- A type between parentheses. -/
  | enclosed
  /-- Any other type. -/
  | other
deriving DecidableEq, Inhabited

/-- An operand read as a type. -/
structure TypeReading where
  type : TypeExpr
  form : TypeForm
  /-- It holds type arguments, outside of brackets of its own. -/
  instantiated : Bool := false
  /-- How much speaks for a type: a bare name speaks against it, type arguments speak for it. -/
  weight : Int := 0
deriving Inhabited

/-- An operand with its possible readings. -/
structure Reading where
  value : Option Expr := none
  type : Option TypeReading := none
  /-- The value before the brackets, if these may hold type arguments. -/
  base : Option Expr := none
deriving Inhabited

/-- An argument of a call. -/
structure Argument where
  reading : Reading
  /-- Followed by `...`. -/
  spread : Bool := false
deriving Inhabited

namespace Reading

/-- An operand that is a value only. -/
def ofValue (e : Expr) : Reading := { value := some e }

/-- An operand that is a type only. -/
def ofType (type : TypeExpr) (form : TypeForm) : Reading := { type := some { type, form } }

/-- A bare name. -/
def ofName (name : String) : Reading :=
  { value := some (.ident name)
    type := some { type := .named none name, form := .name, weight := -1 } }

/-- The operand between parentheses. -/
def paren (r : Reading) : Reading :=
  { value := r.value.map .paren, type := r.type.map ({ · with form := .enclosed }) }

/-- The operand below a unary operator: `*` may make a pointer type. -/
def unary (op : String) (r : Reading) : Reading :=
  { value := r.value.map (.unary op)
    type := match op, r.type with
      | "*", some t => some { t with type := .pointer t.type, form := .other }
      | _, _ => none }

/-- The selection of a name. -/
def select (r : Reading) (name : String) : Option Reading :=
  r.value.map fun v =>
    { value := some (.selector v name)
      type := match v with
        | .ident package => some { type := .named (some package) name, form := .qualified }
        | _ => none }

/-- The operand as a generic type with arguments of this weight. -/
def instantiate? (r : Reading) (weight : Int) : Option TypeReading :=
  r.type.bind fun t =>
    if t.form = .name ∨ t.form = .qualified then
      some { type := .generic t.type, form := .generic, instantiated := true, weight := 3 + weight }
    else none

/-- An operand with one operand in brackets after it: an element, or a type with an argument. -/
def index (r operand : Reading) : Option Reading :=
  let value := match r.value, operand.value with
    | some v, some i => some (Expr.index v [i])
    | _, _ => if r.type.isSome && operand.type.isSome then some .other else none
  value.map fun v =>
    { value := some v
      type := operand.type.bind fun t => r.instantiate? t.weight
      base := if operand.type.isSome then r.value else none }

/-- An operand with several types in brackets after it. -/
def instantiate (r : Reading) (arguments : List Reading) : Option Reading := do
  let types ← arguments.mapM (·.type)
  return { value := if r.type.isSome then some .other else none
           type := r.instantiate? (types.foldl (fun n t => n + t.weight) 0)
           base := r.value }

/-- An operand with the bounds of a slice after it. -/
def slice (r : Reading) (bounds : List Expr) : Option Reading :=
  r.value.map fun v => ofValue (.index v bounds)

/-- The value of an argument that stands where `new` and `make` take a type. -/
def typeArgument (r : Reading) : Option Expr :=
  match r.type, r.value with
  | some t, none => some (match t.form with
    | .enclosed => .other
    | _ => .type t.type)
  | some t, some v => if t.weight < 0 then some v else some (match t.form with
    | .enclosed => .other
    | _ => .type t.type)
  | none, v => v

/-- The arguments of a call of `new` or `make`: the first may be a type. -/
def builtinArguments (arguments : List Argument) : Option (List Expr) :=
  match arguments with
  | first :: rest =>
    if arguments.any (·.spread) then arguments.mapM (·.reading.value)
    else do return (← first.reading.typeArgument) :: (← rest.mapM (·.reading.value))
  | [] => some []

/-- The one value that a conversion takes. -/
def single? : List Argument → Option Expr
  | [{ reading, spread := false }] => reading.value
  | _ => none

/-- A call, or the conversion of a single value to a type: an operand that cannot be a value, or that
    has type arguments, is a type. Otherwise type arguments are left out. -/
def call (r : Reading) (arguments : List Argument) : Option Reading :=
  let conversion := match r.type, single? arguments with
    | some t, some v =>
      if r.value.isNone || t.instantiated then some (Expr.call (.type t.type) [v]) else none
    | _, _ => none
  let plain := do
    let callee ← r.base.or r.value
    match callee with
    | .ident "new" | .ident "make" => return Expr.call callee (← builtinArguments arguments)
    | _ => return Expr.call callee (← arguments.mapM (·.reading.value))
  (conversion.or plain).map ofValue

/-- The type of a literal that begins with the operand. In a header a named type begins none. -/
def literalType? (r : Reading) (header : Bool) : Option TypeExpr :=
  r.type.bind fun t => match t.form with
    | .literal => some t.type
    | .name | .qualified | .generic => if header then none else some t.type
    | .enclosed | .other => none

/-- The operand as a type of more than one word. -/
def longType? (r : Reading) : Option TypeExpr :=
  r.type.bind fun t => match t.form with
    | .qualified | .generic => some t.type
    | .literal | .name | .enclosed | .other => none

end Reading

end FieldAudit.Source
