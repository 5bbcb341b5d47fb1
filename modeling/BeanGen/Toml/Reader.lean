import BeanGen.Text.Basic
import BeanGen.Toml.Quoted
import BeanGen.Toml.Scalar
import BeanGen.Toml.Statement

/-!
# Reading TOML

The structure of the whole text comes first; then the lines are gone through in order, with keys and
scalars taken for what they mean: a header opens a table, an assignment adds to the table opened
last. A table of an array joins it only when the next header or the end of the text completes it. So
a fault of structure wins over one of meaning wherever the two stand, and of two faults of meaning
the first one wins. Numbers without a value are found last, when the document is put to use.
-/

namespace BeanGen.Toml

/-! ## Keys -/

def isBare (c : Char) : Bool :=
  c.isAlphanum || c == '_' || c == '-'

/-- The name that a part of a key stands for: a bare word or a string on one line. -/
def partName : Token → Except Problem String
  | .quoted .basic text => unquote .basic text
  | .quoted .literal text => unquote .literal text
  | .word (c :: cs) =>
    if (c :: cs).all isBare then .ok (String.ofList (c :: cs))
    else .error (.badKey (String.ofList (c :: cs)))
  | t => .error (.badKey (String.ofList t.chars))

def maxParts : Nat :=
  80

def keyNames (key : RawKey) : Except Problem (List String × String) := do
  let names ← key.mapM partName
  if maxParts < key.length then throw .keyTooLong
  return (names.dropLast, names.getLastD "")

/-! ## Values -/

def scalarNode : Token → Except Problem Node
  | .quoted quotes text => (unquote quotes text).map .text
  | t => scalar t.chars

mutual

def RawValue.node : RawValue → Except Problem Node
  | .scalar t => scalarNode t
  | .array items => return .array (← itemNodes items)
  | .table entries => return .table .inline (← addEntries entries ⟨.header, []⟩).entries

def itemNodes : List RawValue → Except Problem (List Node)
  | [] => return []
  | v :: rest => return (← v.node) :: (← itemNodes rest)

def addEntries : List (RawKey × RawValue) → Table → Except Problem Table
  | [], t => return t
  | (key, v) :: rest, t => do
    let (path, last) ← keyNames key
    let n ← v.node
    addEntries rest (← t.assign path last n)

end

/-! ## Documents -/

/-- The table that assignments go to: one at a path, or one that is going to join an array. -/
inductive Opened where
  | table (path : List String)
  | item (path : List String) (key : String) (item : Table)

/-- The tables read so far, and the one that is open. -/
structure Document where
  root : Table
  opened : Opened

namespace Document

def empty : Document :=
  ⟨⟨.header, []⟩, .table []⟩

def complete (d : Document) : Except Problem Table :=
  match d.opened with
  | .table _ => return d.root
  | .item path key item => d.root.addItem path key item

def assign (path : List String) (key : String) (n : Node) (d : Document) :
    Except Problem Document :=
  match d.opened with
  | .table opened =>
    return { d with root := ← Table.update false (Table.assign path key n) opened d.root }
  | .item way last item => return { d with opened := .item way last (← item.assign path key n) }

def extend (d : Document) : Statement → Except Problem Document
  | .header key => do
    let root ← d.complete
    let (path, last) ← keyNames key
    return ⟨← root.openTable path last, .table (path ++ [last])⟩
  | .item key => do
    let root ← d.complete
    let (path, last) ← keyNames key
    return ⟨root, .item path last ⟨.header, []⟩⟩
  | .assign key v => do
    let (path, last) ← keyNames key
    let n ← v.node
    d.assign path last n

/-- The document after a line; a fault is put where the line starts. -/
def read (d : Document) (l : Line) : Except Fault Document :=
  (d.extend l.statement).mapError fun p => ⟨p, widthOf l.start⟩

end Document

def dropMark : List Char → List Char
  | '\uFEFF' :: rest => rest
  | cs => cs

def read (text : String) : Except Fault Table := do
  let ls ← linesOf (tokens (dropMark text.toList))
  let d ← ls.foldlM Document.read .empty
  d.complete.mapError fun p => ⟨p, 0⟩

/-- Reads a whole text and sees it as JSON. Of the arrays that `limits` names no more than so many
items are looked at. -/
def readJson (limits : List (String × Nat)) (text : String) : Except Fault Json := do
  let document ← read text
  let seen := limits.foldl (fun t (key, count) => t.limitItems key count) document
  seen.toJson.mapError fun p => ⟨p, 0⟩

/-! ## Faults -/

def Problem.message : Problem → String
  | .endOfText => "the text ends too early"
  | .unexpected text => "unexpected '" ++ text ++ "'"
  | .rawControl => "control character"
  | .badEscape => "invalid escape"
  | .badKey text => "'" ++ text ++ "' is no key"
  | .badScalar text => "'" ++ text ++ "' is no value"
  | .outOfRange text => "'" ++ text ++ "' is out of range"
  | .duplicateKey key => "key '" ++ key ++ "' is set twice"
  | .notATable key => "key '" ++ key ++ "' is no table to add to"
  | .tooDeep => "values are nested too deep"
  | .keyTooLong => "recursion limit"

/-- A fault in words, with its place in the text; a key of too many parts is reported without a
place, on a line of its own. -/
def Fault.message (text : String) (f : Fault) : String :=
  if f.problem = .keyTooLong then f.problem.message ++ "\n"
  else
    let p := Text.positionAt text.toList f.remaining
    s!"TOML parse error at line {p.line}, column {p.column}: {f.problem.message}"

end BeanGen.Toml
