import BeanGen.BindError
import BeanGen.Schema.BoundType

/-!
# Checking a bound type

The check goes through the fields in order and then through the identities, and reports the first
fault it meets.
-/

namespace BeanGen

inductive ModelFault where
  | blankTypeName
  | unnamedField (type : String)
  | noSuffix (field type : String)
  | repeatedField (field type : String)
  | sharedProperty (other field type property : String)
  | reservedProperty (field type property : String)
  | dateDefault (field type : String)
  | charDefault (field type value : String)
  | unknownIdentity (identity type : String)
  | unmappedIdentity (identity type : String)
  deriving DecidableEq, Repr, Inhabited

namespace ModelFault

def message : ModelFault → String
  | .blankTypeName => "type name cannot be empty"
  | .unnamedField type => "type '" ++ type ++ "' has a field without a name"
  | .noSuffix field type => "field '" ++ field ++ "' of '" ++ type ++ "' has no method suffix"
  | .repeatedField field type => "type '" ++ type ++ "' declares field '" ++ field ++ "' twice"
  | .sharedProperty other field type property =>
    "fields '" ++ other ++ "' and '" ++ field ++ "' of '" ++ type ++
      "' share the property name '" ++ property ++ "'"
  | .reservedProperty field type property =>
    "field '" ++ field ++ "' of '" ++ type ++ "' has the reserved property name '" ++
      property ++ "'"
  | .dateDefault field type =>
    "date field '" ++ field ++ "' of '" ++ type ++ "' cannot declare a default value"
  | .charDefault field type value =>
    "char field '" ++ field ++ "' of '" ++ type ++ "' has default '" ++ value ++
      "', expected one character"
  | .unknownIdentity identity type =>
    "identity '" ++ identity ++ "' of '" ++ type ++ "' is not a declared field"
  | .unmappedIdentity identity type =>
    "identity '" ++ identity ++ "' of '" ++ type ++ "' has no column mapping"

def toError (f : ModelFault) : BindError :=
  .invalidModel f.message

end ModelFault

def BoundField.checkDefault (type : String) (f : BoundField) : Except ModelFault Unit :=
  match f.effectiveDefault?, f.content with
  | some _, .date => .error (.dateDefault f.name type)
  | some value, .char =>
    if value.length == 1 then .ok () else .error (.charDefault f.name type value)
  | _, _ => .ok ()

/-- Checks one field of a type after the fields `before` it. -/
def BoundField.check (type : String) (before : List BoundField) (f : BoundField) :
    Except ModelFault Unit :=
  if f.name.isEmpty then .error (.unnamedField type)
  else if f.suffix.isEmpty then .error (.noSuffix f.name type)
  else if before.any (·.name == f.name) then .error (.repeatedField f.name type)
  else
    match before.find? (·.property == f.property) with
    | some other => .error (.sharedProperty other.name f.name type f.property)
    | none =>
      if Java.reservedWords.contains f.property then
        .error (.reservedProperty f.name type f.property)
      else f.checkDefault type

def checkFields (type : String) : List BoundField → List BoundField → Except ModelFault Unit
  | _, [] => .ok ()
  | before, f :: rest => do
    f.check type before
    checkFields type (before ++ [f]) rest

def checkIdentities (type : String) (fields : List BoundField) :
    List String → Except ModelFault Unit
  | [] => .ok ()
  | identity :: rest =>
    if fields.any (·.isNamed identity) then checkIdentities type fields rest
    else .error (.unknownIdentity identity type)

namespace BoundType

def check (t : BoundType) : Except ModelFault Unit :=
  if Text.allBlank t.name then .error .blankTypeName
  else do
    checkFields t.name [] t.fields
    checkIdentities t.name t.fields t.identities

/-- Checks the type; a fault is an error of the run. -/
def validate (t : BoundType) : Except BindError Unit :=
  t.check.mapError ModelFault.toError

end BoundType

end BeanGen
