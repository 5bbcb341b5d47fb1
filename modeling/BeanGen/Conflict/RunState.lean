import BeanGen.Text.Basic
import BeanGen.Text.Printable

/-!
# The state of a run

A run remembers which classes it has produced and whether it has been asked to stop.
-/

namespace BeanGen.Conflict

inductive RunStatus where
  | normal
  | stopped
  deriving DecidableEq, Repr, Inhabited

def RunStatus.name : RunStatus → String
  | .normal => "Normal"
  | .stopped => "Stop"

/-- The status of a run and the names of the classes produced so far, in ascending order. -/
structure RunState where
  status : RunStatus
  processed : List String
  deriving DecidableEq, Repr, Inhabited

namespace RunState

def initial : RunState :=
  ⟨.normal, []⟩

def isStopped (s : RunState) : Bool :=
  s.status == .stopped

def stop (s : RunState) : RunState :=
  { s with status := .stopped }

def isProcessed (s : RunState) (className : String) : Bool :=
  s.processed.contains className

def mark (s : RunState) (className : String) : RunState :=
  { s with processed := Text.insertAscending className s.processed }

def markAll (s : RunState) (classNames : List String) : RunState :=
  classNames.foldl mark s

def describe (s : RunState) : String :=
  "GenerationState \x7b status: " ++ s.status.name ++ ", processed: \x7b" ++
    String.intercalate ", " (s.processed.map Text.quoted) ++ "\x7d \x7d"

end RunState

end BeanGen.Conflict
