import FieldAudit.Text.Blank

/-!
# Arguments

Options and values on a command line. An option is `--name`, `--name=value` or `--name value`, or one
of several letters after a dash; after `--` everything is a value. An option that waits for its value
is settled when the next one comes, so an unknown option is noticed before a bad value.
-/

namespace FieldAudit.Command

/-- What is wrong with a command line, or what it asks for instead of a run. -/
inductive UsageError where
  | help
  | version
  | helpOnMissing
  | missingSubcommand
  | invalidSubcommand
  | unknownArgument
  | missingRequired
  /-- A value is missing or empty. -/
  | invalidValue
  /-- A value cannot be read. -/
  | badValue
  /-- An option that takes no value has one. -/
  | unneededValue
  /-- An option that may stand once stands twice. -/
  | conflict
deriving DecidableEq, Inhabited

/-- The exit code after a usage error. -/
def UsageError.exitCode : UsageError → Nat
  | help | version => 0
  | _ => 2

/-- What an option does. -/
inductive Action where
  | flag
  /-- Takes a value, at most once. -/
  | single
  /-- Takes a value each time. -/
  | repeated
  | help
  | version
deriving DecidableEq, Inhabited

/-- Whether an action takes a value. -/
def Action.takesValue : Action → Bool
  | single | repeated => true
  | _ => false

/-- An option, or the value without one. -/
structure Opt where
  name : String
  letter : Option Char := none
  action : Action := .flag
  /-- What is wrong with a value. -/
  check : String → Option UsageError := fun _ => none

/-- The options of a command, and its value without an option. -/
structure Spec where
  options : List Opt
  value : Option Opt := none

/-- The arguments that have been read. -/
structure Given where
  /-- The values of options by name, in order; a flag has an empty value. -/
  values : List (String × String) := []
  /-- The option whose value is not settled, with the value if there is one. -/
  pending : Option (Opt × Option String) := none
  /-- A `--` was read. -/
  trailing : Bool := false
  /-- The value without an option was read. -/
  valueRead : Bool := false

namespace Given

/-- Whether an option stands among the arguments. -/
def has (g : Given) (name : String) : Bool := g.values.any (·.1 == name)

/-- The values of an option. -/
def all (g : Given) (name : String) : List String := (g.values.filter (·.1 == name)).map (·.2)

/-- The value of an option. -/
def get? (g : Given) (name : String) : Option String := (g.all name).head?

/-- Acts on an option with its value. -/
def act (g : Given) (o : Opt) (value : Option String) : Except UsageError Given := do
  if o.action = .help then throw .help
  if o.action = .version then throw .version
  if o.action.takesValue && value.isNone then throw .invalidValue
  if o.action != .repeated && g.has o.name then throw .conflict
  if let some e := value.bind o.check then throw e
  return { g with values := g.values ++ [(o.name, value.getD "")] }

/-- Settles the option that waits. -/
def settle (g : Given) : Except UsageError Given :=
  match g.pending with
  | some (o, value) => { g with pending := none }.act o value
  | none => return g

/-- Settles what waits, then acts on an option. -/
def next (g : Given) (o : Opt) (value : Option String) : Except UsageError Given := do
  (← g.settle).act o value

/-- Settles what waits, then lets an option wait. -/
def await (g : Given) (o : Opt) (value : Option String) : Except UsageError Given := do
  return { ← g.settle with pending := some (o, value) }

/-- Reads a value without an option. -/
def positional (g : Given) (spec : Spec) (arg : String) : Except UsageError Given := do
  match spec.value with
  | some o =>
    if g.valueRead then throw .unknownArgument
    return { ← g.await o (some arg) with valueRead := true }
  | none => throw .unknownArgument

/-- Reads an option with a long name. -/
def long (g : Given) (spec : Spec) (body : List Char) : Except UsageError Given := do
  let name := String.ofList (body.takeWhile (· != '='))
  let attached := match body.dropWhile (· != '=') with
    | _ :: value => some (String.ofList value)
    | [] => none
  match spec.options.find? (·.name == name) with
  | none => throw .unknownArgument
  | some o =>
    if o.action.takesValue then
      match attached with
      | some value => g.next o (some value)
      | none => g.await o none
    else if attached.isSome then throw .unneededValue
    else g.next o none

/-- Reads letters after a dash. The letters after one that takes a value are its value. -/
def letters (spec : Spec) : Given → List Char → Except UsageError Given
  | g, [] => return g
  | g, c :: rest => do
    match spec.options.find? (·.letter == some c) with
    | none => throw .unknownArgument
    | some o =>
      if o.action.takesValue then
        match rest with
        | [] => g.await o none
        | '=' :: value => g.next o (some (.ofList value))
        | value => g.next o (some (.ofList value))
      else letters spec (← g.next o none) rest

/-- Reads one argument. -/
def read (g : Given) (spec : Spec) (arg : String) : Except UsageError Given :=
  if g.trailing then g.positional spec arg
  else match arg.toList with
    | ['-', '-'] => return { g with trailing := true }
    | '-' :: '-' :: body => g.long spec body
    | '-' :: c :: rest => letters spec g (c :: rest)
    | _ => match g.pending with
      | some (o, none) => return { g with pending := some (o, some arg) }
      | _ => g.positional spec arg

/-- Reads all arguments. -/
def readAll (spec : Spec) (args : List String) : Except UsageError Given := do
  let g ← args.foldlM (fun (g : Given) arg => g.read spec arg) {}
  g.settle

end Given

end FieldAudit.Command
