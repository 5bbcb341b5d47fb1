import BeanGen.Text.Basic

/-!
# JSON values

A JSON value as a tree. Members of an object are kept in ascending order of their keys, each key
once, so two objects with the same members are the same value.
-/

namespace BeanGen

/-- A JSON value. A number without fraction and exponent that fits 64 bits is an `int`, every other
number a `float`. -/
inductive Json where
  | null
  | bool (value : Bool)
  | int (value : Int)
  | float (value : Float)
  | str (value : String)
  | arr (items : List Json)
  | obj (members : List (String × Json))
  deriving Inhabited

namespace Json

/-- The object with the given members; of two with one key the later stays. -/
def ofMembers (members : List (String × Json)) : Json :=
  .obj (members.foldl (fun acc m => Text.insertEntry m.1 m.2 acc) [])

def member? (key : String) : Json → Option Json
  | .obj members => members.lookup key
  | _ => none

def ofText? : Option String → Json
  | some s => .str s
  | none => .null

end Json

end BeanGen
