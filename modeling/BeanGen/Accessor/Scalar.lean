import BeanGen.Accessor.ChangeNotice
import BeanGen.Accessor.Emission
import BeanGen.Java.ValueType

/-!
# Accessors of a field with one value

Every such field has a member, a reader and a writer. A boolean one is also read by `is…`. A
primitive one has a flag beside it that tells a value never set from the zero of the type; `has…`
reads the flag and `delete…` clears it.
-/

namespace BeanGen.Accessor.Scalar

open Java

def valueMember (f : BoundField) : FieldDecl :=
  { FieldDecl.plain f.valueType.written f.name with comment := visibleComment? f.notes }

def flagMember (f : BoundField) : FieldDecl :=
  .documented "boolean" f.flagName ("Keeps track of whether '" ++ f.name ++ "' has been set.")

def members (f : BoundField) : List FieldDecl :=
  if f.valueType.isPrimitive then [valueMember f, flagMember f] else [valueMember f]

def declare (f : BoundField) (c : ClassDecl) : ClassDecl :=
  (c.addImports f.valueType.imports).addFields (members f)

def getter (f : BoundField) : Emission :=
  .ofMethod (.plain f.readMethod (some f.valueType.written) []
    ("Returns the value of field '" ++ f.property ++ "'.") [line ("return this." ++ f.name ++ ";")])

def predicate (f : BoundField) : Emission :=
  .ofMethod (.plain ("is" ++ f.suffix) (some "boolean") []
    ("Returns the value of field '" ++ f.property ++ "'.") [line ("return this." ++ f.name ++ ";")])

def formerName (f : BoundField) : String :=
  "old" ++ Text.capitalize f.property

/-- The lines of the writer: a bound field keeps its former value for the listeners. -/
def setterLines (f : BoundField) : List Line :=
  let keep :=
    if f.bound then
      [line ("Object " ++ formerName f ++ " = " ++ f.valueType.toObject ("this." ++ f.name) ++ ";")]
    else []
  let mark := if f.valueType.isPrimitive then [line ("this." ++ f.flagName ++ " = true;")] else []
  keep ++ [line ("this." ++ f.name ++ " = " ++ f.property ++ ";")] ++ mark ++
    ChangeNotice.callIfBound f (formerName f)

def setter (f : BoundField) : Emission :=
  .ofMethod (.plain f.writeMethod none [⟨f.valueType.written, f.property⟩]
    ("Sets the value of field '" ++ f.property ++ "'.") (setterLines f))

def hasValue (f : BoundField) : Emission :=
  .ofMethod (.plain ("has" ++ f.suffix) (some "boolean") []
    ("Returns true if field '" ++ f.property ++ "' has been set.")
    [line ("return this." ++ f.flagName ++ ";")])

def deletion (f : BoundField) : Emission :=
  .ofMethod (.plain ("delete" ++ f.suffix) none []
    ("Marks field '" ++ f.property ++ "' as unset.") [line ("this." ++ f.flagName ++ " = false;")])

def suite (f : BoundField) : List Emission :=
  [getter f, setter f] ++ (if f.content = .boolean then [predicate f] else []) ++
    (if f.valueType.isPrimitive then [hasValue f, deletion f] else [])

def equip (f : BoundField) (c : ClassDecl) : ClassDecl :=
  ChangeNotice.installIfBound f (c.emitAll (suite f))

def initialLines (f : BoundField) : List Line :=
  match f.effectiveDefault? with
  | none => []
  | some value => [line ("this." ++ f.name ++ " = " ++ f.valueType.literal value ++ ";")]

end BeanGen.Accessor.Scalar
