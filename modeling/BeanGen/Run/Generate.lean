import BeanGen.Generation.Generator
import BeanGen.Java.CompilationUnit
import BeanGen.Run.Failure
import BeanGen.Schema.Codec

/-!
# Generating the sources of a model

The types of a model are generated in order, and every class goes to the file that its name gives. A
file that is there already is replaced only if the strategy allows it, or if replacing is forced. A
type for which the strategy stops is passed over; any other error ends the run.
-/

namespace BeanGen.Run

open Conflict Generation Java

/-- What to generate, where to, and whether files are replaced without a question. -/
structure Job where
  model : String
  output : String
  force : Bool
  deriving DecidableEq, Repr, Inhabited

/-- What a run has done: how many types it generated, which files it wrote and kept, and which types
it passed over. -/
structure Summary where
  types : Nat
  written : List String
  kept : List String
  aborted : List String
  deriving DecidableEq, Repr, Inhabited

namespace Summary

def empty : Summary :=
  ⟨0, [], [], []⟩

def addType (s : Summary) : Summary :=
  { s with types := s.types + 1 }

def addWritten (s : Summary) (path : String) : Summary :=
  { s with written := s.written ++ [path] }

def addKept (s : Summary) (path : String) : Summary :=
  { s with kept := s.kept ++ [path] }

def addAborted (s : Summary) (typeName : String) : Summary :=
  { s with aborted := s.aborted ++ [typeName] }

end Summary

def loadModel (path : String) : Task (List BoundType) := do
  let text ← Task.ofOutcome (.modelNotRead path) (.load path)
  Task.ofExcept (.modelNotValid path) (readModel text)

def writeClass (path : String) (c : ClassDecl) : Task Unit := do
  match Path.parent? path with
  | none => pure ()
  | some parent => Task.ofOutcome (.directoryNotMade parent) (.ensureDirs parent)
  Task.ofOutcome (.fileNotWritten path) (.store path c.render)

/-- Whether a file may be written: a file that is there is up to the strategy, unless forced. -/
def mayWrite (job : Job) (strategy : Strategy) (path : String) : Program Bool := do
  if (← Program.present path) && !job.force then
    Program.ofInquiry (strategy.onFileOverwrite path)
  else return true

def placeClass (job : Job) (strategy : Strategy) (s : Summary) (c : ClassDecl) : Task Summary := do
  let path := Path.join job.output c.sourcePath
  if ← Task.ofProgram (mayWrite job strategy path) then
    writeClass path c
    return s.addWritten path
  else
    Task.ofProgram (.report (.fileKept path))
    return s.addKept path

def generateTypes (job : Job) : Generator → Summary → List BoundType → Task Summary
  | _, s, [] => return s
  | g, s, t :: rest => do
    let (g, result) ← Task.ofProgram (.ofInquiry (g.generate t))
    match result with
    | .ok classes =>
      let s ← classes.foldlM (placeClass job g.strategy) s.addType
      generateTypes job g s rest
    | .error (.generationAborted name reason) =>
      Task.ofProgram (.report (.typeAborted t.name (.generationAborted name reason)))
      generateTypes job g (s.addAborted t.name) rest
    | .error e => throw (.typeNotGenerated t.name e)

def registryOf (settings : Settings) : Program Registry := do
  let (registry, events) := Registry.ofText .builtin settings.conflictStrategies
  Program.ofInquiry (Inquiry.reportAll events)
  return registry

def runWith (job : Job) (g : Generator) (types : List BoundType) : Task Summary := do
  Task.ofProgram <| .report (.runStarted types.length g.strategy.name job.output)
  generateTypes job g .empty types

/-- Reads the model and generates its types with the strategy that the settings name. -/
def run (job : Job) (settings : Settings) : Task Summary := do
  let types ← loadModel job.model
  let registry ← Task.ofProgram (registryOf settings)
  let g ← Task.ofExcept .strategyNotSelected (Generator.ofRegistry settings registry)
  runWith job g types

end BeanGen.Run
