import BeanGen.Json.Basic

/-!
# TOML documents

A document is a tree of tables. Each table remembers how it came about, because that decides who may
add to it later: a table named by a header is complete once its header is passed, one that only
stands on the way to a header may get a header of its own, one made by a dotted key may only be
extended by dotted keys, and one written inline not at all.
-/

namespace BeanGen.Toml

inductive Origin where
  | header
  | onTheWay
  | dotted
  | inline
  deriving DecidableEq, Repr, Inhabited

/-- A value of a document. A number that no value can hold is kept by its text. -/
inductive Node where
  | text (value : String)
  | integer (value : Int)
  | float (value : Float)
  | beyond (text : String)
  | flag (value : Bool)
  | moment (value : String)
  | array (items : List Node)
  | tables (items : List (Origin × List (String × Node)))
  | table (origin : Origin) (entries : List (String × Node))
  deriving Inhabited

/-- A table: its origin and its entries in the order of the text. -/
structure Table where
  origin : Origin
  entries : List (String × Node)
  deriving Inhabited

inductive Problem where
  | endOfText
  | unexpected (text : String)
  | rawControl
  | badEscape
  | badKey (text : String)
  | badScalar (text : String)
  | outOfRange (text : String)
  | duplicateKey (key : String)
  | notATable (key : String)
  | tooDeep
  | keyTooLong
  deriving DecidableEq, Repr

/-- A problem, and how many characters were left where it was met. -/
structure Fault where
  problem : Problem
  remaining : Nat
  deriving DecidableEq, Repr

namespace Table

def toNode (t : Table) : Node :=
  .table t.origin t.entries

/-- The table with the value of a key put in place of the old one. -/
def replace (t : Table) (key : String) (n : Node) : Table :=
  { t with entries := t.entries.map fun e => if e.1 = key then (key, n) else e }

def add (t : Table) (key : String) (n : Node) : Table :=
  { t with entries := t.entries ++ [(key, n)] }

/-- Changes the table at the end of a path. Tables missing on the way are made, with the origin that
suits the path; of an array of tables the last is meant. A dotted path may not pass through a table
that has a header. -/
def update (dotted : Bool) (f : Table → Except Problem Table) :
    List String → Table → Except Problem Table
  | [], t => f t
  | key :: path, t =>
    match t.entries.lookup key with
    | none => do
      let made ← update dotted f path ⟨if dotted then .dotted else .onTheWay, []⟩
      return t.add key made.toNode
    | some (.table origin entries) =>
      if origin = .inline then throw (.notATable key)
      else if dotted && origin = .header then throw (.duplicateKey key)
      else do
        let made ← update dotted f path ⟨origin, entries⟩
        return t.replace key made.toNode
    | some (.tables items) =>
      match items.getLast? with
      | none => throw (.notATable key)
      | some (origin, entries) => do
        let made ← update dotted f path ⟨origin, entries⟩
        return t.replace key (.tables (items.dropLast ++ [(made.origin, made.entries)]))
    | some _ => throw (.notATable key)

/-- Assigns a value to a dotted key. The table before the last key must be made by dotted keys
exactly when the key has several parts. -/
def assign (path : List String) (key : String) (n : Node) (t : Table) : Except Problem Table :=
  update true (fun t =>
    if (t.origin == .dotted) == path.isEmpty then throw (.duplicateKey key)
    else if (t.entries.lookup key).isSome then throw (.duplicateKey key)
    else return t.add key n) path t

def openTable (path : List String) (key : String) (t : Table) : Except Problem Table :=
  update false (fun parent =>
    match parent.entries.lookup key with
    | none => return parent.add key (.table .header [])
    | some (.table .onTheWay entries) => return parent.replace key (.table .header entries)
    | some _ => throw (.duplicateKey key)) path t

def addItem (path : List String) (key : String) (item t : Table) : Except Problem Table :=
  update false (fun parent =>
    let made := [(item.origin, item.entries)]
    match parent.entries.lookup key with
    | none => return parent.add key (.tables made)
    | some (.tables items) => return parent.replace key (.tables (items ++ made))
    | some _ => throw (.duplicateKey key)) path t

/-- The table with no more than `count` items of the array under a key. -/
def limitItems (key : String) (count : Nat) (t : Table) : Table :=
  { t with entries := t.entries.map fun
      | (k, .array items) => (k, .array (if k = key then items.take count else items))
      | e => e }

end Table

/-- The key under which a moment stands when a document is seen as JSON. -/
def momentKey : String :=
  "$__toml_private_datetime"

mutual

/-- A value as JSON. A moment is an object with its text under a key of its own. -/
def Node.toJson : Node → Except Problem Json
  | .text s => return .str s
  | .integer n => return .int n
  | .float x => return .float x
  | .beyond text => throw (.outOfRange text)
  | .flag b => return .bool b
  | .moment s => return .obj [(momentKey, .str s)]
  | .array items => return .arr (← itemsToJson items)
  | .tables items => return .arr (← tablesToJson items)
  | .table _ entries => return Json.ofMembers (← entriesToJson entries)

def itemsToJson : List Node → Except Problem (List Json)
  | [] => return []
  | n :: rest => return (← n.toJson) :: (← itemsToJson rest)

def tablesToJson : List (Origin × List (String × Node)) → Except Problem (List Json)
  | [] => return []
  | (_, entries) :: rest =>
    return Json.ofMembers (← entriesToJson entries) :: (← tablesToJson rest)

def entriesToJson : List (String × Node) → Except Problem (List (String × Json))
  | [] => return []
  | (k, n) :: rest => return (k, ← n.toJson) :: (← entriesToJson rest)

end

def Table.toJson (t : Table) : Except Problem Json :=
  t.toNode.toJson

end BeanGen.Toml
