import BeanGen.BindError
import BeanGen.Run.Program

/-!
# Failures of a command

A failure says what was being done and what went wrong. A task is a program that may fail.
-/

namespace BeanGen.Run

inductive Failure where
  | modelNotRead (path : String) (fault : OsFault)
  | modelNotValid (path : String) (error : BindError)
  | settingsNotLoaded (path : String) (error : BindError)
  | settingsNotValid (error : BindError)
  | strategyNotSelected (error : BindError)
  | strategyNotRegistered (name : String) (available : List String) (error : BindError)
  | typeNotGenerated (typeName : String) (error : BindError)
  | directoryNotMade (path : String) (fault : OsFault)
  | fileNotWritten (path : String) (fault : OsFault)
  deriving DecidableEq, Repr, Inhabited

namespace Failure

def context : Failure → String
  | modelNotRead path _ => "failed to read type model " ++ path
  | modelNotValid path _ => "invalid type model in " ++ path
  | settingsNotLoaded path _ => "failed to load configuration from " ++ path
  | settingsNotValid _ => "invalid configuration"
  | strategyNotSelected _ => "failed to select the conflict strategy"
  | strategyNotRegistered name available _ =>
    "conflict strategy '" ++ name ++ "' is not registered (available: " ++
      String.intercalate ", " available ++ ")"
  | typeNotGenerated typeName _ => "failed to generate '" ++ typeName ++ "'"
  | directoryNotMade path _ => "failed to create directory " ++ path
  | fileNotWritten path _ => "failed to write " ++ path

def cause : Failure → String
  | modelNotRead _ fault => fault.message
  | modelNotValid _ error => error.message
  | settingsNotLoaded _ error => error.message
  | settingsNotValid error => error.message
  | strategyNotSelected error => error.message
  | strategyNotRegistered _ _ error => error.message
  | typeNotGenerated _ error => error.message
  | directoryNotMade _ fault => fault.message
  | fileNotWritten _ fault => fault.message

def chain (f : Failure) : List String :=
  [f.context, f.cause]

def indentLines (text : String) : String :=
  let lines := (Text.segments (· == '\n') text.toList).map String.ofList
  String.intercalate "\n" (lines.map ("    " ++ ·))

def report (f : Failure) : String :=
  "Error: " ++ f.context ++ "\n\nCaused by:\n" ++ indentLines f.cause ++ "\n"

end Failure

abbrev Task :=
  ExceptT Failure Program

def Task.ofProgram {α : Type} (p : Program α) : Task α :=
  ExceptT.lift p

/-- An operation on files as a task, with the failure that a fault means. -/
def Task.ofOutcome {α : Type} (failure : OsFault → Failure) (p : Program (Except OsFault α)) :
    Task α := do
  match ← Task.ofProgram p with
  | .ok a => return a
  | .error fault => throw (failure fault)

/-- A value that may be missing as a task, with the failure that an error means. -/
def Task.ofExcept {α : Type} (failure : BindError → Failure) : Except BindError α → Task α
  | .ok a => return a
  | .error e => throw (failure e)

end BeanGen.Run
