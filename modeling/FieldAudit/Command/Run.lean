import FieldAudit.Check
import FieldAudit.Command.Line
import FieldAudit.Command.Template
import FieldAudit.Report.Json
import FieldAudit.Report.Pretty
import FieldAudit.Report.SourceLine
import FieldAudit.Settings.Read
import FieldAudit.Settings.Validity

/-!
# Running commands

What a command does with the files around it: what it prints, how it exits, and what it writes.
-/

namespace FieldAudit.Command

open Files

/-- What a command finds when it starts. -/
structure Environment where
  /-- All files. -/
  top : Entry
  /-- The names from the top to the working directory. -/
  workingDir : List String := []
  /-- The working directory as it is printed. -/
  workingDirText : String
  /-- The settings file of the user, as it is printed and with its content, if there is one. -/
  userSettings : Option (String × List UInt8) := none
  /-- Whether to print in colors. -/
  color : Bool := false

/-- The path of a text that was given as an argument. -/
def Environment.path (env : Environment) (text : String) : Route :=
  if Text.startsWith text.toList ['/'] then Route.ofString text
  else env.workingDir.map .down ++ Route.ofString text

/-- What a command leaves. -/
structure Result where
  exit : Nat
  out : String := ""
  err : String := ""
  /-- All files. -/
  top : Entry

/-- The exit code of a run that finds nothing. -/
def success : Nat := 0

/-- The exit code of a run that finds something. -/
def failed : Nat := 1

/-- The exit code of a run that cannot be made. -/
def broken : Nat := 2

/-- The result of a run that cannot be made. -/
def Environment.error (env : Environment) (lines : List String) : Result :=
  { exit := broken, err := String.join (lines.map (· ++ "\n")), top := env.top }

/-- The names of settings files in the working directory. -/
def settingsNames : List String := ["lostfield.yaml", ".lostfield.yaml"]

/-- The settings in a file, or why there are none. -/
def settingsOf (content : Except PathError (List UInt8)) : Except String Settings := do
  let bytes ← content.mapError PathError.message
  match Source.chars? bytes with
  | none => throw PathError.notText.message
  | some text => (Settings.read text).mapError ReadError.message

/-- The file of the settings as it is printed, and its content: the given one, else the first of those
    in the working directory and that of the user that is there. -/
def Environment.settingsFile? (env : Environment) (explicit : Option String) :
    Option (String × Except PathError (List UInt8)) :=
  match explicit with
  | some text => some (text, env.top.readBytes (env.path text))
  | none =>
    match settingsNames.find? fun name => env.top.isFile (env.path name) with
    | some name => some (env.workingDirText ++ "/" ++ name, env.top.readBytes (env.path name))
    | none => env.userSettings.map fun (text, content) => (text, .ok content)

/-- The settings of a run. -/
def Environment.settings (env : Environment) (args : CheckArgs) : Except String Settings := do
  let loaded ← match env.settingsFile? args.config with
    | none => pure {}
    | some (text, content) =>
      (settingsOf content).mapError fun e => "parsing " ++ text ++ ": " ++ e
  let settings ← args.apply loaded
  match settings.error? with
  | some e => throw ("invalid config: " ++ e.message)
  | none => return settings

/-- The report on an outcome in the wanted format. -/
def Environment.report (env : Environment) (args : CheckArgs) (settings : Settings) (root : Route)
    (o : Outcome) : String :=
  match settings.format with
  | .json => Report.json args.path o
  | .pretty => Report.pretty env.color args.showSuppressed (Report.sourceLine env.top root) o
  | .lines => Report.lines o

/-- The root of a run at a place and the files below it: a directory with its source files, or the
    directory of a file with that file. -/
def rootAndFiles (settings : Settings) (top : Entry) (place : List String) :
    List String × List (List String) :=
  match top.get? place with
  | some (.dir children) =>
    (place, collect settings (place.getLast?.getD "") (.dir children))
  | _ => (place.dropLast, [place.getLast?.toList])

/-- Checks the files at a place. -/
def Environment.checkAt (env : Environment) (args : CheckArgs) (settings : Settings)
    (place : List String) : Result :=
  let (root, files) := rootAndFiles settings env.top place
  if files.isEmpty then
    { exit := success, err := "Warning: no Go files to check\n", top := env.top }
  else
    let root : Route := root.map .down
    let program := Program.load Program.readSource env.top root (files.map (·.map .down))
    let outcome := program.check settings
    { exit := if outcome.findings.isEmpty then success else failed
      out := env.report args settings root outcome
      top := env.top }

/-- Runs `check`. -/
def Environment.check (env : Environment) (args : CheckArgs) : Result :=
  match env.settings args with
  | .error e => env.error ["Error: " ++ e]
  | .ok settings => match env.top.locate (env.path args.path) with
    | .error e =>
      env.error ["Error: cannot access path " ++ Text.quoted args.path ++ ": " ++ e.message]
    | .ok place => env.checkAt args settings place

/-- What is printed after settings were written to a file. -/
def nextSteps (output : String) : String :=
  String.join ([
    "Created " ++ output,
    "",
    "Next steps:",
    "  1. Edit " ++ output ++ " to customize for your project",
    "  2. Run: lostfield check . --config " ++ output].map (· ++ "\n"))

/-- Runs `init`. -/
def Environment.init (env : Environment) (args : InitArgs) : Result :=
  let path := env.path args.output
  if (env.top.find path).toBool && !args.force then
    env.error ["Error: file already exists: " ++ args.output,
      "Remove it, pass --force, or use --output to specify a different path"]
  else match env.top.makeDirs path.parent with
    | .error e => env.error ["Error: failed to create directory: " ++ e.message]
    | .ok top => match top.write path template.toUTF8.toList with
      | .error e => { env.error ["Error: failed to write config: " ++ e.message] with top }
      | .ok top => { exit := success, out := nextSteps args.output, top }

/-- Runs a command. -/
def Environment.run (env : Environment) : Request → Result
  | .check args => env.check args
  | .init args => env.init args

end FieldAudit.Command
