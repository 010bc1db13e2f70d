import FieldAudit.Command.Arguments
import FieldAudit.Decimal.Read
import FieldAudit.Settings.Basic

/-!
# Command lines

The commands `check` and `init` with their options.
-/

namespace FieldAudit.Command

/-- What to check, and how. -/
structure CheckArgs where
  path : String
  /-- The file of the settings; otherwise one is looked for. -/
  config : Option String := none
  format : Option String := none
  showSuppressed : Bool := false
  noMemberFunctions : Bool := false
  noGetterFallback : Bool := false
  allowAggregating : Bool := false
  excludeFields : List String := []
  excludeConverters : List String := []
  excludeFiles : List String := []
  minSimilarity : Option Float := none
  ignoreTags : List String := []
  includeGenerated : Bool := false
  ignoreDeprecated : Bool := false
  includePrivate : Bool := false
  nonSerializable : Option String := none
deriving Inhabited

/-- Where to write settings. -/
structure InitArgs where
  output : String := "lostfield.yaml"
  force : Bool := false
deriving Inhabited

/-- A command. -/
inductive Request where
  | check (args : CheckArgs)
  | init (args : InitArgs)

/-- A command line. -/
structure Line where
  verbose : Bool
  request : Request

/-- A path must not be empty. -/
def checkPath (value : String) : Option UsageError :=
  if value.isEmpty then some .invalidValue else none

/-- A number has to be one. -/
def checkNumber (value : String) : Option UsageError :=
  if (Decimal.read? value.toList).isNone then some .badValue else none

/-- The options that every command has. -/
def commonOptions : List Opt :=
  [{ name := "verbose", letter := some 'v' }, { name := "help", letter := some 'h', action := .help }]

/-- The options before a command. -/
def topSpec : Spec :=
  { options := { name := "version", letter := some 'V', action := .version } :: commonOptions }

/-- The options of `check`. -/
def checkSpec : Spec :=
  { value := some { name := "", action := .single, check := checkPath }
    options := commonOptions ++
      [{ name := "config", letter := some 'c', action := .single, check := checkPath },
       { name := "format", letter := some 'f', action := .single },
       { name := "show-suppressed" }, { name := "no-member-functions" },
       { name := "no-getter-fallback" }, { name := "allow-aggregating" },
       { name := "exclude-field", action := .repeated },
       { name := "exclude-converter", action := .repeated },
       { name := "exclude-file", action := .repeated },
       { name := "min-similarity", action := .single, check := checkNumber },
       { name := "ignore-tag", action := .repeated }, { name := "include-generated" },
       { name := "ignore-deprecated" }, { name := "include-private" },
       { name := "non-serializable", action := .single }] }

/-- The options of `init`. -/
def initSpec : Spec :=
  { options := commonOptions ++
      [{ name := "output", letter := some 'o', action := .single, check := checkPath },
       { name := "force" }] }

/-- The arguments of `check`. -/
def checkArgs (g : Given) : Except UsageError CheckArgs :=
  match g.get? "" with
  | none => .error .missingRequired
  | some path => .ok
    { path
      config := g.get? "config", format := g.get? "format"
      showSuppressed := g.has "show-suppressed"
      noMemberFunctions := g.has "no-member-functions"
      noGetterFallback := g.has "no-getter-fallback"
      allowAggregating := g.has "allow-aggregating"
      excludeFields := g.all "exclude-field"
      excludeConverters := g.all "exclude-converter"
      excludeFiles := g.all "exclude-file"
      minSimilarity := (g.get? "min-similarity").bind fun v => Decimal.read? v.toList
      ignoreTags := g.all "ignore-tag"
      includeGenerated := g.has "include-generated"
      ignoreDeprecated := g.has "ignore-deprecated"
      includePrivate := g.has "include-private"
      nonSerializable := g.get? "non-serializable" }

/-- The arguments of `init`. -/
def initArgs (g : Given) : InitArgs :=
  { output := (g.get? "output").getD "lostfield.yaml", force := g.has "force" }

/-- The names of commands, help included. -/
def commandNames : List String := ["check", "lint", "init", "help"]

/-- Answers a call for help with a command, which has to exist. -/
def helpWith (args : List String) : UsageError :=
  match args with
  | [] => .help
  | [name] => if commandNames.contains name then .help else .invalidSubcommand
  | _ => .invalidSubcommand

/-- Reads a command line from its first command on; `verbose` tells what was said before it. -/
def readCommand (verbose : Bool) (name : String) (args : List String) : Except UsageError Line := do
  match name with
  | "help" => throw (helpWith args)
  | "init" =>
    let g ← Given.readAll initSpec args
    return { verbose := verbose || g.has "verbose", request := .init (initArgs g) }
  | _ =>
    let g ← Given.readAll checkSpec args
    return { verbose := verbose || g.has "verbose", request := .check (← checkArgs g) }

/-- Reads a command line, after some options before the command. -/
def readFrom (g : Given) : List String → Except UsageError Line
  | [] => .error (if g.has "verbose" then .missingSubcommand else .helpOnMissing)
  | arg :: rest =>
    let isCommand := commandNames.contains arg
    let isOption := Text.startsWith arg.toList ['-'] && arg != "-"
    if g.trailing then .error (if isCommand then .unknownArgument else .invalidSubcommand)
    else if isCommand then readCommand (g.has "verbose") arg rest
    else if isOption then (g.read topSpec arg).bind fun g => readFrom g rest
    else .error .invalidSubcommand

/-- Reads a command line. -/
def Line.read (args : List String) : Except UsageError Line := readFrom {} args

/-- The settings with what a command line says. -/
def CheckArgs.apply (args : CheckArgs) (s : Settings) : Except String Settings := do
  let nonSerializable ← match args.nonSerializable with
    | some word => NonSerializable.parse word
    | none => pure s.nonSerializable
  let format ← match args.format with
    | some word => Format.parse word
    | none => pure s.format
  return { s with
    includeMemberFunctions := s.includeMemberFunctions && !args.noMemberFunctions
    allowGetterFallback := s.allowGetterFallback && !args.noGetterFallback
    allowAggregating := s.allowAggregating || args.allowAggregating
    excludeFields := s.excludeFields ++ args.excludeFields
    excludeConverters := s.excludeConverters ++ args.excludeConverters
    excludeFiles := s.excludeFiles ++ args.excludeFiles
    minSimilarity := args.minSimilarity.getD s.minSimilarity
    ignoreTags := s.ignoreTags ++ args.ignoreTags
    includeGenerated := s.includeGenerated || args.includeGenerated
    ignoreDeprecated := s.ignoreDeprecated || args.ignoreDeprecated
    includePrivate := s.includePrivate || args.includePrivate
    nonSerializable, format }

end FieldAudit.Command
