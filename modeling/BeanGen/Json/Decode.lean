import BeanGen.Json.Basic
import BeanGen.Json.Number
import BeanGen.Decimal.Shortest
import BeanGen.Text.Printable

/-!
# Decoding values into records and choices

A record is written as an object, whose members are read in the order of their keys, or as an array
of its fields in declaration order. Unknown keys are skipped. A missing field takes its value from
the blank record, unless the record requires it; the required fields come first in every record. A
choice without payload is written as its name, one with a payload as an object with the name as its
only key.

Two formats share these rules and differ in two points, which `Dialect` holds.
-/

namespace BeanGen.Json

inductive Expectation where
  | text
  | flag
  | int32
  | sequence
  | unit
  | choice
  | payload
  | fieldsPayload
  | record (name : String)
  deriving DecidableEq, Repr

inductive DecodeFault where
  | mismatch (found : Json) (expected : Expectation)
  | bareName (expected : Expectation)
  | outOfRange (n : Int)
  | notSingleKey
  | missing (key : String)
  | unknownName (name : String) (known : List String)
  | tooShort (length : Nat) (record : String) (size : Nat)
  | tooLong (length : Nat)
  deriving Inhabited

abbrev Decoded (α : Type) :=
  Except DecodeFault α

def Expectation.describe : Expectation → String
  | .text => "a string"
  | .flag => "a boolean"
  | .int32 => "i32"
  | .sequence => "a sequence"
  | .unit => "unit"
  | .choice => "string or map"
  | .payload => "newtype variant"
  | .fieldsPayload => "struct variant"
  | .record name => "struct " ++ name

def ticked (s : String) : String :=
  "`" ++ s ++ "`"

/-- A value in words, by its kind; scalars show what they hold. -/
def describe : Json → String
  | .null => "null"
  | .bool b => "boolean " ++ ticked (if b then "true" else "false")
  | .int n => "integer " ++ ticked (toString n)
  | .float x => "floating point " ++ ticked (Decimal.floatText x)
  | .str s => "string " ++ Text.quoted s
  | .arr _ => "sequence"
  | .obj _ => "map"

def oneOf : List String → String
  | [] => "there are no variants"
  | [a] => "expected " ++ ticked a
  | [a, b] => "expected " ++ ticked a ++ " or " ++ ticked b
  | names => "expected one of " ++ String.intercalate ", " (names.map ticked)

def DecodeFault.message : DecodeFault → String
  | .mismatch found expected =>
    "invalid type: " ++ found.describe ++ ", expected " ++ expected.describe
  | .bareName expected => "invalid type: unit variant, expected " ++ expected.describe
  | .outOfRange n => "invalid value: integer " ++ ticked (toString n) ++ ", expected i32"
  | .notSingleKey => "invalid value: map, expected map with a single key"
  | .missing key => "missing field " ++ ticked key
  | .unknownName name known => "unknown variant " ++ ticked name ++ ", " ++ oneOf known
  | .tooShort length record size =>
    s!"invalid length {length}, expected struct {record} with {size} elements"
  | .tooLong length => s!"invalid length {length}, expected fewer elements in array"

/-- Where the formats differ: whether an array may hold more than a record's fields, and which
payloads a name without payload may carry. -/
structure Dialect where
  surplusAllowed : Bool
  emptyPayload : Json → Bool

/-- The rules of JSON: no surplus, and only null may follow a name without payload. -/
def strict : Dialect where
  surplusAllowed := false
  emptyPayload
    | .null => true
    | _ => false

/-- The rules of a table format without null: surplus items are skipped, and an empty table or array
may follow a name without payload. -/
def tabular : Dialect where
  surplusAllowed := true
  emptyPayload
    | .arr [] => true
    | .obj [] => true
    | _ => false

/-! ## Scalars and sequences -/

def text : Json → Decoded String
  | .str s => .ok s
  | v => .error (.mismatch v .text)

def flag : Json → Decoded Bool
  | .bool b => .ok b
  | v => .error (.mismatch v .flag)

def int32 : Json → Decoded Int
  | .int n => if minInt32 ≤ n && n ≤ maxInt32 then .ok n else .error (.outOfRange n)
  | v => .error (.mismatch v .int32)

def optional {α : Type} (decode : Json → Decoded α) : Json → Decoded (Option α)
  | .null => .ok none
  | v => (decode v).map some

def each {α : Type} (decode : Json → Decoded α) : List Json → Decoded (List α)
  | [] => .ok []
  | v :: vs => do
    let x ← decode v
    let xs ← each decode vs
    return x :: xs

def sequence {α : Type} (decode : Json → Decoded α) : Json → Decoded (List α)
  | .arr items => each decode items
  | v => .error (.mismatch v .sequence)

/-! ## Records -/

/-- How a record is decoded: the keys of its fields in declaration order, how many of them, at the
front, are required, the record before any field is read, and how one field is put into it. -/
structure RecordShape (α : Type) where
  name : String
  keys : List String
  required : Nat
  blank : α
  put : String → Json → α → Decoded α

namespace RecordShape

variable {α : Type} (shape : RecordShape α)

def putAll : List (String × Json) → α → Decoded α
  | [], r => .ok r
  | (k, v) :: rest, r => do
    let r ← shape.put k v r
    putAll rest r

def firstMissing? (members : List (String × Json)) : Option String :=
  (shape.keys.take shape.required).find? fun k => !members.any (·.1 == k)

def ofMembers (members : List (String × Json)) : Decoded α := do
  let r ← shape.putAll members shape.blank
  match shape.firstMissing? members with
  | none => return r
  | some key => throw (.missing key)

def ofItems (dialect : Dialect) (items : List Json) : Decoded α := do
  let r ← shape.putAll (shape.keys.zip items) shape.blank
  if items.length < shape.required then
    throw (.tooShort items.length shape.name shape.keys.length)
  else if shape.keys.length < items.length && !dialect.surplusAllowed then
    throw (.tooLong items.length)
  else return r

def decode (dialect : Dialect) : Json → Decoded α
  | .obj members => shape.ofMembers members
  | .arr items => shape.ofItems dialect items
  | v => .error (.mismatch v (.record shape.name))

end RecordShape

/-! ## Choices -/

def choice : Json → Decoded (String × Option Json)
  | .str name => .ok (name, none)
  | .obj [(name, payload)] => .ok (name, some payload)
  | .obj _ => .error .notSingleKey
  | v => .error (.mismatch v .choice)

def noPayload {α : Type} (dialect : Dialect) (value : α) : Option Json → Decoded α
  | none => .ok value
  | some payload =>
    if dialect.emptyPayload payload then .ok value else .error (.mismatch payload .unit)

def withPayload {α : Type} (decode : Json → Decoded α) : Option Json → Decoded α
  | none => .error (.bareName .payload)
  | some payload => decode payload

def withFields {α : Type} (shape : RecordShape α) : Option Json → Decoded α
  | none => .error (.bareName .fieldsPayload)
  | some (.obj members) => shape.ofMembers members
  | some payload => .error (.mismatch payload .fieldsPayload)

def plainChoice {α : Type} (dialect : Dialect) (names : List (String × α)) (v : Json) :
    Decoded α := do
  let (name, payload) ← choice v
  match names.lookup name with
  | some value => noPayload dialect value payload
  | none => throw (.unknownName name (names.map (·.1)))

end BeanGen.Json
