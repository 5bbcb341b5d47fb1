import BeanGen.Schema.Note

/-!
# Fields of a bound type

A field holds one value or a collection of values of one kind. Its member name may start with an
underscore, which the property name drops; the external name and the column name are derived when
they are not given.
-/

namespace BeanGen

/-- The kind of a value; `bound` is another bound type, by its class name. -/
inductive ContentKind where
  | string
  | boolean
  | byte
  | short
  | int
  | long
  | float
  | double
  | char
  | decimal
  | date
  | bound (className : String)
  deriving DecidableEq, Repr, Inhabited

/-- How many values a field holds; a maximum of zero or below is no bound. -/
inductive Multiplicity where
  | single
  | many (max : Int)
  deriving DecidableEq, Repr, Inhabited

/-- The form of a field in a document. -/
inductive NodeKind where
  | element
  | attribute
  | text
  deriving DecidableEq, Repr, Inhabited

def NodeKind.constant : NodeKind → String
  | .element => "Element"
  | .attribute => "Attribute"
  | .text => "Text"

/-- One data member of a bound type. -/
structure BoundField where
  name : String
  content : ContentKind
  suffix : String
  bound : Bool
  multiplicity : Multiplicity
  defaultValue : Option String
  extraMethods : Bool
  externalName : Option String
  node : NodeKind
  required : Bool
  columnName : Option String
  notes : List SchemaNote
  deriving DecidableEq, Repr, Inhabited

namespace BoundField

def single (name : String) (content : ContentKind) (suffix : String) : BoundField :=
  ⟨name, content, suffix, false, .single, none, false, none, .element, false, none, []⟩

def collection (name : String) (content : ContentKind) (suffix : String) (max : Int) : BoundField :=
  { single name content suffix with multiplicity := .many max }

def isCollection (f : BoundField) : Bool :=
  match f.multiplicity with
  | .single => false
  | .many _ => true

/-- The declared maximum; zero for a field with one value. -/
def maxSize (f : BoundField) : Int :=
  match f.multiplicity with
  | .single => 0
  | .many max => max

def stripUnderscore (s : String) : String :=
  match s.toList with
  | '_' :: rest => String.ofList rest
  | _ => s

def property (f : BoundField) : String :=
  stripUnderscore f.name

def xmlName (f : BoundField) : String :=
  f.externalName.getD f.property

def sqlName (f : BoundField) : String :=
  f.columnName.getD f.xmlName

def effectiveDefault? (f : BoundField) : Option String :=
  f.defaultValue.filter (!·.isEmpty)

def readMethod (f : BoundField) : String :=
  "get" ++ f.suffix

def writeMethod (f : BoundField) : String :=
  "set" ++ f.suffix

def parameter (f : BoundField) : String :=
  "v" ++ f.suffix

def flagName (f : BoundField) : String :=
  "_has_" ++ f.property

/-- Whether an identity names this field, by its member name or its property name. -/
def isNamed (f : BoundField) (identity : String) : Bool :=
  f.name == identity || f.property == identity

end BoundField

end BeanGen
