import FieldAudit.Finding
import FieldAudit.Program
import FieldAudit.Suppression

/-!
# Checking a program

Every function of every file is looked at on its own; the outcomes are merged and put in order.
-/

namespace FieldAudit

/-- Whether a function is not looked at: it has no body, it is a constructor, or its name is
    excluded. -/
def Settings.skips (settings : Settings) (decl : FuncDecl) : Bool :=
  decl.body.isNone || Text.startsWith decl.name.toList "New".toList
    || Pattern.matchesAny settings.excludeConverters decl.name
    || Pattern.matchesAny settings.excludeConverters decl.qualifiedName

namespace Program

/-- The outcome for a converter with a verdict. -/
def report (path : String) (decl : FuncDecl) (verdict : Verdict) : Outcome :=
  let finding : Finding :=
    { file := path, line := decl.nameSpan.start.row + 1, column := decl.nameSpan.start.column + 1
      function := decl.qualifiedName, verdict }
  if verdict.valid then { converters := 1 }
  else match decl.suppression? with
    | some reason => { converters := 1, suppressed := [{ finding, reason }] }
    | none => { converters := 1, findings := [finding] }

/-- The outcome for a function. One that is no converter, or that cannot be judged, is passed over. -/
def checkFunction (p : Program) (settings : Settings) (file : ProgramFile) (decl : FuncDecl) :
    Outcome :=
  if settings.skips decl then {}
  else match (p.scope file).signature? decl with
    | none => {}
    | some sig =>
      if (classify settings p.table decl sig.params sig.results).isNone then {}
      else match judge settings p.table decl sig with
        | .error _ => { converters := 1 }
        | .ok verdict => report file.path decl verdict

/-- The outcome for a file. A generated file is not looked at unless the settings ask for it. -/
def checkFile (p : Program) (settings : Settings) (file : ProgramFile) : Outcome :=
  if file.source.generated && !settings.includeGenerated then {}
  else (file.source.functions.map (p.checkFunction settings file)).foldl Outcome.merge { scanned := 1 }

/-- The outcome for a program. -/
def check (p : Program) (settings : Settings) : Outcome :=
  ((p.files.map (p.checkFile settings)).foldl Outcome.merge {}).sort

end Program

end FieldAudit
