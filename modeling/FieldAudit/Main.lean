import FieldAudit.Command.Run
import FieldAudit.Command.Usage
import FieldAudit.Files.Changes

/-!
# The program

Reads the files that a command may need from the disk into a tree, runs the command on the tree,
prints what it says and writes the files that it changed.
-/

namespace FieldAudit.Disk

open Files Command

/-- The text of a place on the disk. -/
def text (place : List String) : String := "/" ++ "/".intercalate place

/-- The names of an absolute path. -/
def names (path : String) : List String := (path.splitOn "/").filter fun name => !name.isEmpty

/-- The tree with what is at a place on the disk: a file, or a directory without its content. -/
def load (top : Entry) (place : List String) : IO Entry := do
  try
    match (← (System.mkFilePath [text place]).metadata).type with
    | .dir => return if (top.get? place).any Entry.isDir then top else top.put (.dir []) place
    | _ => return top.put (.file (← IO.FS.readBinFile (text place)).toList) place
  catch _ => return top

/-- The tree with the source files below a directory. Links to other directories are not followed. -/
partial def loadBelow (top : Entry) (place : List String) : IO Entry := do
  let mut top := top
  for item in ← (System.mkFilePath [text place]).readDir do
    let inner := place ++ [item.fileName]
    match (← item.path.symlinkMetadata).type with
    | .dir => unless skipsDir item.fileName do top ← loadBelow top inner
    | _ => if isSourceName item.fileName then top ← load top inner
  return top

/-- The tree with what is on the way of a path from a place, and the module file of every directory
    there. -/
def loadAlong (top : Entry) (place : List String) : Route → IO Entry
  | [] => load top (place ++ ["go.mod"])
  | .here :: rest => loadAlong top place rest
  | .up :: rest => loadAlong top place.dropLast rest
  | .down name :: rest => do
    let top ← load top (place ++ ["go.mod"])
    let inner := place ++ [name]
    loadAlong (← load top inner) inner rest

/-- The place of the settings of the user. -/
def userSettingsPlace? : IO (Option (List String)) := do
  let file := ["lostfield", "config.yaml"]
  match ← IO.getEnv "XDG_CONFIG_HOME" with
  | some dir => if Text.startsWith dir.toList ['/'] then return some (names dir ++ file)
  | none => pure ()
  return (← IO.getEnv "HOME").map fun home => names home ++ ".config" :: file

/-- The settings of the user, if there are any. -/
def userSettings : IO (Option (String × List UInt8)) := do
  match ← userSettingsPlace? with
  | none => return none
  | some place =>
    return ((← load (.dir []) place).content? place).map fun content => (text place, content)

/-- What a command finds when it starts. -/
def environment (request : Request) : IO Environment := do
  let workingDir := names (← IO.currentDir).toString
  let mut env : Environment :=
    { top := .dir [], workingDir, workingDirText := text workingDir
      userSettings := ← userSettings, color := ← (← IO.getStdout).isTty }
  let paths := match request with
    | .check args => args.path :: args.config.toList ++ settingsNames
    | .init args => [args.output]
  for path in paths do
    env := { env with top := ← loadAlong env.top [] (env.path path) }
  if let .check args := request then
    if let .ok place := env.top.locate (env.path args.path) then
      if (env.top.get? place).any Entry.isDir then
        env := { env with top := ← loadBelow env.top place }
  return env

/-- Writes the files that differ between two trees. -/
def write (after before : Entry) : IO Unit := do
  for (place, content) in after.changesSince before do
    IO.FS.createDirAll (text place.dropLast)
    IO.FS.writeBinFile (text place) (ByteArray.mk content.toArray)

end FieldAudit.Disk

open FieldAudit Command in
/-- Runs the command that the arguments ask for. -/
def main (args : List String) : IO UInt32 := do
  match Line.read args with
  | .error e =>
    let message := String.join (e.lines.map (· ++ "\n"))
    if e.exitCode = 0 then IO.print message else IO.eprint message
    return e.exitCode.toUInt32
  | .ok line =>
    let env ← Disk.environment line.request
    let result := env.run line.request
    Disk.write result.top env.top
    IO.print result.out
    IO.eprint result.err
    return result.exit.toUInt32
