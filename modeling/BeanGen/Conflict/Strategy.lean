import BeanGen.Conflict.Inquiry
import BeanGen.Conflict.RunState
import BeanGen.Java.ClassDecl
import BeanGen.Schema.BoundType

/-!
# Conflict strategies

A strategy decides what happens when a type asks for a class name that is taken, and when a file to
be written is already there. One of the two built-in strategies reports and goes on; the other asks,
and without a dialog it neither stops a run nor lets a file be replaced.
-/

namespace BeanGen.Conflict

open Java

/-- How conflicts are settled, under the name of the strategy. -/
structure Strategy where
  name : String
  onNameClash : RunState → BoundType → ClassDecl → Inquiry RunState
  onFileOverwrite : String → Inquiry Bool

namespace Strategy

def ignoreClash (s : RunState) (_ : BoundType) (_ : ClassDecl) : Inquiry RunState :=
  return s

def informViaLog : Strategy where
  name := "informViaLog"
  onNameClash s candidate taken := do
    Inquiry.report (.nameClash candidate.name taken.name)
    return s
  onFileOverwrite file := do
    Inquiry.report (.overwriting file)
    return true

def clashQuestion (candidate taken : String) : Question where
  message := "Warning: " ++ clashMessage candidate taken ++ " Continue anyway [not recommended]"
  responses := "yn"
  legend := "y = yes, n = no"

def overwriteQuestion (file : String) : Question where
  message := file ++ " already exists. overwrite"
  responses := "yna"
  legend := "y = yes, n = no, a = all"

/-- Asks about every conflict: `n` stops at a name clash, and only `y` lets a file be replaced. -/
def warnViaConsoleDialog : Strategy where
  name := "warnViaConsoleDialog"
  onNameClash s candidate taken := do
    match ← Inquiry.confirm (clashQuestion candidate.name taken.name) with
    | none =>
      Inquiry.report (.nameClashUnasked candidate.name taken.name)
      return s
    | some 'n' =>
      Inquiry.report (.stopRequested taken.name)
      return s.stop
    | some _ => return s
  onFileOverwrite file := do
    match ← Inquiry.confirm (overwriteQuestion file) with
    | none =>
      Inquiry.report (.overwriteUnasked file)
      return false
    | some c => return c == 'y'

end Strategy

end BeanGen.Conflict
