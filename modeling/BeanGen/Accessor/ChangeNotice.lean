import BeanGen.Java.ClassDecl
import BeanGen.Schema.BoundField

/-!
# Change notices

A method that changes a bound member ends by telling the listeners. A class with a bound field
carries the member that keeps the listeners, and the methods that register and tell them; they are
added once.
-/

namespace BeanGen.Accessor.ChangeNotice

open Java

def supportField : String :=
  "propertyChangeSupport"

def notifyMethod : String :=
  "notifyPropertyChangeListeners"

def supportClass : String :=
  "java.beans.PropertyChangeSupport"

def listenerClass : String :=
  "java.beans.PropertyChangeListener"

/-- The lines that tell the listeners about a field; `old` is the expression of its former value. -/
def call (f : BoundField) (old : String) : List Line :=
  [line "", line "// notify listeners",
    line (notifyMethod ++ "(\"" ++ f.property ++ "\", " ++ old ++ ", this." ++ f.name ++ ");")]

def callIfBound (f : BoundField) (old : String) : List Line :=
  if f.bound then call f old else []

def member : FieldDecl :=
  .documented (simpleName supportClass) supportField
    "Property change support, created on first listener registration."

def ifUnused : Line :=
  line ("if (this." ++ supportField ++ " == null) \x7b")

def tellAll : MethodDecl :=
  { MethodDecl.plain notifyMethod none
      [⟨"String", "fieldName"⟩, ⟨"Object", "oldValue"⟩, ⟨"Object", "newValue"⟩]
      "Notifies all registered listeners of a changed field."
      [ifUnused, indented "return;", line "\x7d",
        line ("this." ++ supportField ++ ".firePropertyChange(fieldName, oldValue, newValue);")]
    with modifiers := .only .heirs }

def register : MethodDecl :=
  .plain "addPropertyChangeListener" none [⟨simpleName listenerClass, "pcl"⟩]
    "Registers a listener notified when a bound field changes."
    [ifUnused,
      indented ("this." ++ supportField ++ " = new " ++ simpleName supportClass ++ "(this);"),
      line "\x7d", line ("this." ++ supportField ++ ".addPropertyChangeListener(pcl);")]

def unregister : MethodDecl :=
  .plain "removePropertyChangeListener" (some "boolean") [⟨simpleName listenerClass, "pcl"⟩]
    "Removes a listener; returns false when none was ever registered."
    [ifUnused, indented "return false;", line "\x7d",
      line ("this." ++ supportField ++ ".removePropertyChangeListener(pcl);"), line "return true;"]

def methods : List MethodDecl :=
  [tellAll, register, unregister]

/-- Adds the member and the methods, unless a member of that name is there. -/
def install (c : ClassDecl) : ClassDecl :=
  match c.field? supportField with
  | some _ => c
  | none => ((c.addImports [supportClass, listenerClass]).addField member).addMethods methods

def installIfBound (f : BoundField) (c : ClassDecl) : ClassDecl :=
  if f.bound then install c else c

end BeanGen.Accessor.ChangeNotice
