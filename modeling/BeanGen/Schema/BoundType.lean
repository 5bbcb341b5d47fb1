import BeanGen.Java.Name
import BeanGen.Schema.BoundField
import BeanGen.Text.Casing

/-!
# Bound types

A bound type becomes one generated class and its descriptors. What the descriptors need of it is its
`Binding`.
-/

namespace BeanGen

inductive AccessMode where
  | shared
  | exclusive
  | dbLocked
  | readOnly
  deriving DecidableEq, Repr, Inhabited

def AccessMode.standard : AccessMode :=
  .shared

def AccessMode.runtimeName : AccessMode → String
  | .shared => "shared"
  | .exclusive => "exclusive"
  | .dbLocked => "db-locked"
  | .readOnly => "read-only"

/-- A type of the schema that is bound to a class. -/
structure BoundType where
  name : String
  parent : Option String
  elementDefinition : Bool
  namespacePrefix : Option String
  namespaceUri : Option String
  externalName : Option String
  identities : List String
  accessMode : Option AccessMode
  validator : Option String
  tableName : Option String
  isAbstract : Bool
  notes : List SchemaNote
  fields : List BoundField
  deriving DecidableEq, Repr, Inhabited

/-- What descriptors record of a bound type. -/
structure Binding where
  elementDefinition : Bool
  namespacePrefix : Option String
  namespaceUri : Option String
  xmlName : String
  identities : List String
  accessMode : Option AccessMode
  boundClass : String
  parentClass : Option String
  validator : Option String
  tableName : Option String
  fields : List BoundField
  deriving DecidableEq, Repr, Inhabited

namespace BoundType

def ofName (name : String) : BoundType :=
  ⟨name, none, true, none, none, none, [], none, none, none, false, [], []⟩

def package (t : BoundType) : String :=
  Java.packageName t.name

def simpleName (t : BoundType) : String :=
  Java.simpleName t.name

/-- The name in documents: the declared one, or the simple name with a small first letter. -/
def xmlName (t : BoundType) : String :=
  t.externalName.getD (Text.decapitalize t.simpleName)

def field? (t : BoundType) (name : String) : Option BoundField :=
  t.fields.find? (·.name == name)

def binding (t : BoundType) : Binding where
  elementDefinition := t.elementDefinition
  namespacePrefix := t.namespacePrefix
  namespaceUri := t.namespaceUri
  xmlName := t.xmlName
  identities := t.identities
  accessMode := t.accessMode
  boundClass := t.name
  parentClass := t.parent
  validator := t.validator
  tableName := t.tableName
  fields := t.fields

end BoundType

def Binding.isIdentity (b : Binding) (f : BoundField) : Bool :=
  b.identities.any f.isNamed

end BeanGen
