import BeanGen.Accessor.ChangeNotice
import BeanGen.Accessor.Emission
import BeanGen.Accessor.Holding
import BeanGen.BindError

/-!
# Accessors of a field with a collection

One suite serves every policy. Under a policy without positions the accessors by position are left
out; enumeration is the one accessor whose text depends on the policy itself. Where a maximum is
declared, the two methods that add a value first check it.
-/

namespace BeanGen.Accessor.Collection

open Java

def outOfBounds : String :=
  "IndexOutOfBoundsException"

def mentioned (f : BoundField) : String :=
  "the '" ++ f.property ++ "' collection"

def member (h : Holding) (f : BoundField) : FieldDecl :=
  { FieldDecl.plain (h.layout f).memberType f.name with comment := visibleComment? f.notes }

def declare (h : Holding) (f : BoundField) (c : ClassDecl) : ClassDecl :=
  (c.addImports (h.layout f).imports).addField (member h f)

/-- The lines of the constructor that make the collection and add the declared default. -/
def initialLines (h : Holding) (f : BoundField) : List Line :=
  let l := h.layout f
  let create := line (l.member ++ " = " ++ l.emptyValue ++ ";")
  match f.effectiveDefault? with
  | none => [create]
  | some value =>
    [create, line (l.member ++ ".add(" ++ l.toElement (l.element.literal value) ++ ");")]

/-- The lines that tell the listeners of a change; there is no former value to tell. -/
def noticeLines (f : BoundField) : List Line :=
  ChangeNotice.call f "null"

def noticeIfBound (f : BoundField) : List Line :=
  ChangeNotice.callIfBound f "null"

def sizeGuard (f : BoundField) (methodName : String) : List Line :=
  if f.maxSize ≤ 0 then []
  else
    [line "// check for the maximum size",
      line ("if (this." ++ f.name ++ ".size() >= " ++ toString f.maxSize ++ ") \x7b"),
      indented ("throw new " ++ outOfBounds ++ "(\"" ++ methodName ++ " has a maximum of " ++
        toString f.maxSize ++ "\");"),
      line "\x7d", line ""]

def indexGuard (l : Layout) (methodName : String) : List Line :=
  [line "// check bounds for index",
    line ("if (index < 0 || index >= " ++ l.member ++ ".size()) \x7b"),
    indented ("throw new " ++ outOfBounds ++ "(\"" ++ methodName ++
      ": Index value '\" + index + \"' not in range [0..\" + (" ++ l.member ++
      ".size() - 1) + \"]\");"),
    line "\x7d", line ""]

/-- The type of a raw class with the type of the values, under modern settings. -/
def typedResult (h : Holding) (f : BoundField) (className : String) : String :=
  if h.modern then simpleName className ++ "<" ++ h.valueType f ++ ">" else simpleName className

/-! ## Adding -/

def add (h : Holding) (f : BoundField) : Emission :=
  let l := h.layout f
  let name := "add" ++ f.suffix
  ⟨l.imports,
    { MethodDecl.plain name none [⟨l.valueType, f.parameter⟩]
        ("Adds a value to " ++ mentioned f ++ ".")
        (sizeGuard f name ++ [line (l.member ++ ".add(" ++ l.toElement f.parameter ++ ");")] ++
          noticeIfBound f)
      with throwing := [outOfBounds] }⟩

def addAt (h : Holding) (f : BoundField) : Emission :=
  let l := h.layout f
  let name := "add" ++ f.suffix
  ⟨l.imports,
    { MethodDecl.plain name none [⟨"int", "index"⟩, ⟨l.valueType, f.parameter⟩]
        ("Inserts a value into " ++ mentioned f ++ " at the given position.")
        (sizeGuard f name ++
          [line (l.member ++ ".add(index, " ++ l.toElement f.parameter ++ ");")] ++ noticeIfBound f)
      with throwing := [outOfBounds] }⟩

/-! ## Reading -/

def getAt (h : Holding) (f : BoundField) : Emission :=
  let l := h.layout f
  ⟨l.imports,
    { MethodDecl.plain f.readMethod (some l.valueType) [⟨"int", "index"⟩]
        ("Returns the value at the given position of " ++ mentioned f ++ ".")
        (indexGuard l f.readMethod ++
          [line ("return " ++ l.fromElement (l.member ++ ".get(index)") ++ ";")])
      with throwing := [outOfBounds] }⟩

def drainLines (h : Holding) (f : BoundField) : List Line :=
  let l := h.layout f
  let vector := typedResult h f "java.util.Vector"
  let next := if h.modern then "(" ++ l.valueType ++ ") iterator.next()" else "iterator.next()"
  [line (vector ++ " v = new " ++ vector ++ "();"),
    line ("Iterator iterator = " ++ l.member ++ ".iterator();"), line "",
    line "while (iterator.hasNext()) \x7b", indented ("v.add(" ++ next ++ ");"), line "\x7d",
    line "", line "return v.elements();"]

def enumerationLines (h : Holding) (f : BoundField) : List Line :=
  match h.policy with
  | .legacyIndexed => [line ("return " ++ (h.layout f).member ++ ".elements();")]
  | .modernIndexed => [line ("return Collections.enumeration(" ++ (h.layout f).member ++ ");")]
  | .noIndex => [line ("return Collections.enumeration(" ++ (h.layout f).member ++ ");")]
  | .externalStoreBacked => drainLines h f

def enumerationImports : CollectionPolicy → List String
  | .legacyIndexed => []
  | .modernIndexed => ["java.util.Collections"]
  | .noIndex => ["java.util.Collections"]
  | .externalStoreBacked => ["java.util.Vector", "java.util.Iterator"]

def enumerate (h : Holding) (f : BoundField) : Emission :=
  ⟨(h.layout f).imports ++ "java.util.Enumeration" :: enumerationImports h.policy,
    .plain ("enumerate" ++ f.suffix) (some (typedResult h f "java.util.Enumeration")) []
      ("Returns an enumeration over " ++ mentioned f ++ ".") (enumerationLines h f)⟩

def iterate (h : Holding) (f : BoundField) : Emission :=
  let l := h.layout f
  ⟨l.imports ++ ["java.util.Iterator"],
    .plain ("iterate" ++ f.suffix) (some (typedResult h f "java.util.Iterator")) []
      ("Returns an iterator over " ++ mentioned f ++ ".")
      [line ("return " ++ l.member ++ ".iterator();")]⟩

/-- The ways to go through the values: only modern settings have an iterator. -/
def iteration (h : Holding) (f : BoundField) : List Emission :=
  enumerate h f :: if h.modern then [iterate h f] else []

def arrayLines (l : Layout) : List Line :=
  if l.isTyped then
    [line (l.arrayType ++ " array = new " ++ l.valueType ++ "[0];"),
      line ("return " ++ l.member ++ ".toArray(array);")]
  else
    [line ("int size = " ++ l.member ++ ".size();"),
      line (l.arrayType ++ " array = new " ++ l.valueType ++ "[size];"),
      line ("Iterator iter = " ++ l.member ++ ".iterator();"),
      line "for (int index = 0; index < size; index++) \x7b",
      indented ("array[index] = " ++ l.element.fromObject "iter.next()" ++ ";"),
      line "\x7d", line "return array;"]

def getArray (h : Holding) (markers : List String) (f : BoundField) : Emission :=
  let l := h.layout f
  ⟨l.imports ++ (if l.isTyped then [] else ["java.util.Iterator"]),
    { MethodDecl.plain f.readMethod (some l.arrayType) []
        ("Returns the contents of " ++ mentioned f ++ " as an array.") (arrayLines l)
      with markers := markers }⟩

def getCount (f : BoundField) : Emission :=
  .ofMethod (.plain (f.readMethod ++ "Count") (some "int") []
    ("Returns the size of " ++ mentioned f ++ ".") [line ("return this." ++ f.name ++ ".size();")])

/-! ## Removing -/

def removeAll (f : BoundField) : Emission :=
  .ofMethod (.plain ("removeAll" ++ f.suffix) none []
    ("Removes every value from " ++ mentioned f ++ ".")
    (line ("this." ++ f.name ++ ".clear();") :: noticeIfBound f))

def remove (h : Holding) (f : BoundField) : Emission :=
  let l := h.layout f
  ⟨l.imports,
    .plain ("remove" ++ f.suffix) (some "boolean") [⟨l.valueType, f.parameter⟩]
      ("Removes a value from " ++ mentioned f ++ ".")
      ([line ("boolean removed = " ++ l.member ++ ".remove(" ++ l.toElement f.parameter ++ ");")] ++
        noticeIfBound f ++ [line "return removed;"])⟩

def removeAt (h : Holding) (f : BoundField) : Emission :=
  let l := h.layout f
  let holder := if l.isTyped then l.valueType else "Object"
  ⟨l.imports,
    .plain ("remove" ++ f.suffix ++ "At") (some l.valueType) [⟨"int", "index"⟩]
      ("Removes and returns the value at the given position of " ++ mentioned f ++ ".")
      ([line (holder ++ " obj = " ++ l.member ++ ".remove(index);")] ++ noticeIfBound f ++
        [line ("return " ++ l.fromElement "obj" ++ ";")])⟩

/-! ## Replacing -/

def setAt (h : Holding) (f : BoundField) : Emission :=
  let l := h.layout f
  ⟨l.imports,
    { MethodDecl.plain f.writeMethod none [⟨"int", "index"⟩, ⟨l.valueType, f.parameter⟩]
        ("Replaces the value at the given position of " ++ mentioned f ++ ".")
        (indexGuard l f.writeMethod ++
          [line "", line (l.member ++ ".set(index, " ++ l.toElement f.parameter ++ ");")] ++
          noticeIfBound f)
      with throwing := [outOfBounds] }⟩

def setArray (h : Holding) (f : BoundField) : Emission :=
  let l := h.layout f
  let array := f.parameter ++ "Array"
  ⟨l.imports,
    .plain f.writeMethod none [⟨l.arrayType, array⟩]
      ("Replaces the contents of " ++ mentioned f ++ " with the given values.")
      ([line "//-- copy array", line (l.member ++ ".clear();"), line "",
        line ("for (int i = 0; i < " ++ array ++ ".length; i++) \x7b"),
        indented (l.member ++ ".add(" ++ l.toElement (array ++ "[i]") ++ ");"), line "\x7d"] ++
        noticeIfBound f)⟩

/-! ## The collection itself -/

def getReference (h : Holding) (f : BoundField) : Emission :=
  let l := h.layout f
  ⟨l.imports,
    .plain (f.readMethod ++ "AsReference") (some l.memberType) []
      ("Returns a reference to " ++ mentioned f ++ "; changes to it are not checked.")
      [line ("return " ++ l.member ++ ";")]⟩

def setCopy (h : Holding) (f : BoundField) : Emission :=
  let l := h.layout f
  let other := f.parameter ++ "List"
  ⟨l.imports,
    .plain f.writeMethod none [⟨l.memberType, other⟩]
      ("Replaces the contents of " ++ mentioned f ++ " with a copy of the given one.")
      ([line "// copy collection", line (l.member ++ ".clear();"), line "",
        line (l.member ++ ".addAll(" ++ other ++ ");")] ++ noticeIfBound f)⟩

def setReference (h : Holding) (f : BoundField) : Emission :=
  let l := h.layout f
  let other := f.property ++ "Collection"
  ⟨l.imports,
    .plain (f.writeMethod ++ "AsReference") none [⟨l.memberType, other⟩]
      ("Makes the given collection the backing store of '" ++ f.property ++ "'.")
      (line (l.member ++ " = " ++ other ++ ";") :: noticeIfBound f)⟩

/-! ## The suite -/

def ifIndexed (h : Holding) (e : Emission) : List Emission :=
  if h.isIndexed then [e] else []

def commonSuite (h : Holding) (markers : List String) (f : BoundField) : List Emission :=
  [add h f] ++ ifIndexed h (addAt h f) ++ iteration h f ++ ifIndexed h (getAt h f) ++
    [getArray h markers f, getCount f, removeAll f, remove h f] ++ ifIndexed h (removeAt h f) ++
    ifIndexed h (setAt h f) ++ [setArray h f]

def extraSuite (h : Holding) (f : BoundField) : List Emission :=
  [getReference h f, setCopy h f, setReference h f]

def suite (h : Holding) (markers : List String) (f : BoundField) : List Emission :=
  commonSuite h markers f ++ if f.extraMethods then extraSuite h f else []

def equip (h : Holding) (markers : List String) (f : BoundField) (c : ClassDecl) : ClassDecl :=
  ChangeNotice.installIfBound f (c.emitAll (suite h markers f))

def equipChecked (h : Holding) (markers : List String) (f : BoundField) (c : ClassDecl) :
    Except BindError ClassDecl :=
  if f.isCollection then .ok (equip h markers f c) else .error (.notACollection f.name)

end BeanGen.Accessor.Collection
