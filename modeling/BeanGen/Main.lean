import BeanGen.Conflict.Terminal
import BeanGen.Run.Commands

/-!
# The command line

Programs are carried out on the real files, the real terminal and the real log.
-/

namespace BeanGen.Run

open Conflict

def faultOfError : IO.Error → OsFault
  | .noFileOrDirectory _ _ _ => .notFound
  | .alreadyExists _ _ _ => .alreadyThere
  | .inappropriateType _ 20 _ => .notDirectory
  | .inappropriateType _ 21 _ => .isDirectory
  | e => .other (toString e)

def attempt {α : Type} (operation : IO α) : IO (Except OsFault α) := do
  try
    let a ← operation
    return .ok a
  catch e => return .error (faultOfError e)

/-- The next line of the input; none at its end. -/
def nextLine : IO (Option Terminal.RawLine) := do
  match ← attempt (do (← IO.getStdin).getLine) with
  | .error _ => return none
  | .ok line => return if line.isEmpty then none else some line.toUTF8.toList

/-- The directive that is in force, and the levels that it lets through. -/
structure Log where
  levels : List Level

def Log.write (log : Log) (e : Event) : IO Unit := do
  if log.levels.contains e.level then IO.eprint (logLine e)

partial def askTerminal (log : Log) (q : Question) : IO Char := do
  IO.print (Terminal.prompt q)
  (← IO.getStdout).flush
  match ← nextLine with
  | none =>
    log.write .noAnswer
    return 'n'
  | some line =>
    match Terminal.judge q line with
    | .accepted c => return c
    | .unreadable =>
      log.write .noAnswer
      return 'n'
    | .rejected =>
      IO.print (Terminal.reminder q)
      askTerminal log q

def pathThere (path : String) : IO Bool := do
  match ← attempt (do (← IO.FS.realPath path).pathExists) with
  | .ok found => return found
  | .error _ => return false

def carryOut {α : Type} (log : Log) : Program α → IO α
  | .done a => return a
  | .note e next => do
    log.write e
    carryOut log next
  | .ask q next => do
    let c ← askTerminal log q
    carryOut log (next c)
  | .print text next => do
    IO.print text
    carryOut log next
  | .logAt configured verbose next => do
    let directive := logDirective configured verbose (← IO.getEnv "RUST_LOG")
    carryOut ⟨admittedLevels directive⟩ next
  | .findPath path next => do
    let found ← pathThere path
    carryOut log (next found)
  | .readText path next => do
    let outcome ← attempt (IO.FS.readFile path)
    carryOut log (next outcome)
  | .makeDirs path next => do
    let outcome ← attempt (IO.FS.createDirAll path)
    carryOut log (next outcome)
  | .writeText path text next => do
    let outcome ← attempt (IO.FS.writeFile path text)
    carryOut log (next outcome)

end BeanGen.Run

def main (words : List String) : IO UInt32 := do
  let exit ← BeanGen.Run.carryOut ⟨[]⟩ (BeanGen.Run.respond words)
  IO.eprint exit.complaint
  return exit.code.toUInt32
