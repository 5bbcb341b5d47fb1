import BeanGen.Run.Arguments
import BeanGen.Run.Generate
import BeanGen.Run.LogDirective
import BeanGen.Run.Usage
import BeanGen.Settings.Codec
import BeanGen.Settings.Validity

/-!
# Commands

Each command is a task that loads the settings, checks them, and prints what it has found or done.
The whole program ends with an exit code and a text for the stream of errors.
-/

namespace BeanGen.Run

open Conflict

def versionText : String :=
  "schemabind 0.3.0\n"

def printLine (text : String) : Task Unit :=
  Task.ofProgram (.printText (text ++ "\n"))

def loadSettings (path : Option String) : Task Settings := do
  let settings ← match path with
    | none => pure Settings.standard
    | some path => do
      let unread := fun fault : OsFault => Failure.settingsNotLoaded path
        (.invalidConfiguration ("cannot read " ++ path ++ ": " ++ fault.message))
      let text ← Task.ofOutcome unread (.load path)
      Task.ofExcept (.settingsNotLoaded path) (Settings.ofToml text)
  Task.ofExcept .settingsNotValid settings.validate
  return settings

def Summary.lines (output : String) (s : Summary) : List String :=
  ("✓ Generated " ++ toString s.types ++ " type(s), wrote " ++ toString s.written.length ++
    " file(s) to " ++ output) ::
    s.kept.map ("  kept existing " ++ ·) ++ s.aborted.map ("  skipped " ++ ·)

def generateCommand (job : Job) (settings strategy : Option String) (verbose : Bool) :
    Task Unit := do
  let settings ← loadSettings settings
  let settings := match strategy with
    | some name => { settings with conflictStrategy := name }
    | none => settings
  Task.ofProgram (.setLog settings.logLevel verbose)
  let summary ← run job settings
  (summary.lines job.output).forM printLine

/-- Prints the names of the strategies that the settings list, and marks the selected one. -/
def strategiesCommand (settings : Option String) (verbose : Bool) : Task Unit := do
  let settings ← loadSettings settings
  Task.ofProgram (.setLog settings.logLevel verbose)
  let registry ← Task.ofProgram (registryOf settings)
  if registry.names.isEmpty then printLine "No conflict strategies registered."
  registry.names.forM fun name =>
    printLine (name ++ if name = settings.conflictStrategy then " (selected)" else "")

def checkCommand (path : String) (verbose : Bool) : Task Unit := do
  Task.ofProgram (.setLog defaultLogLevel verbose)
  printLine ("Checking configuration: " ++ path)
  let settings ← loadSettings (some path)
  let registry ← Task.ofProgram (registryOf settings)
  let name := settings.conflictStrategy
  let _ ← Task.ofExcept (.strategyNotRegistered name registry.names) (registry.lookup name)
  let package := if settings.package.isEmpty then "(default package)" else settings.package
  printLine ("✓ Package: " ++ package)
  printLine ("✓ Collection policy: " ++ settings.collectionPolicy.name)
  printLine ("✓ Strategies: " ++ String.intercalate ", " registry.names)
  printLine ("✓ Selected strategy: " ++ name)
  printLine "\nConfiguration is valid!"

def Command.perform (verbose : Bool) : Command → Task Unit
  | generate model output settings strategy force =>
    generateCommand ⟨model, output, force⟩ settings strategy verbose
  | strategies settings => strategiesCommand settings verbose
  | check settings => checkCommand settings verbose

/-- How the program ends: its exit code, and what goes to the stream of errors. -/
structure Exit where
  code : Nat
  complaint : String
  deriving DecidableEq, Repr, Inhabited

def Exit.success : Exit :=
  ⟨0, ""⟩

def Exit.failed (f : Failure) : Exit :=
  ⟨1, f.report⟩

def Exit.misused : Exit :=
  ⟨2, usageComplaint⟩

def respond (words : List String) : Program Exit :=
  match readArguments words with
  | .refuse => return .misused
  | .showVersion => do
    Program.printText versionText
    return .success
  | .showHelp topic => do
    Program.printText (usageText topic)
    return .success
  | .perform command verbose => do
    match ← (command.perform verbose).run with
    | .ok () => return .success
    | .error f => return .failed f

end BeanGen.Run
