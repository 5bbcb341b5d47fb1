import BeanGen.Toml.Basic
import BeanGen.Toml.Token

/-!
# Statements of a TOML text

The structure of a text: line by line a header or an assignment, with keys and scalars as they are
written. Inside arrays and inline tables lines may break and comments may stand between any two
tokens except within a key, and a comma may end the list. Where a key or a scalar is missing an
empty word stands for it; what that and every other word means is not asked here. A scalar without
quotes goes on over points and over the spaces before words, because a moment or a number may be
meant by all of it.
-/

namespace BeanGen.Toml

abbrev RawKey :=
  List Token

inductive RawValue where
  | scalar (token : Token)
  | array (items : List RawValue)
  | table (entries : List (RawKey × RawValue))
  deriving Inhabited

inductive Statement where
  | assign (key : RawKey) (value : RawValue)
  | header (key : RawKey)
  | item (key : RawKey)
  deriving Inhabited

abbrev Reader (α : Type) :=
  List Token → Except Fault (α × List Token)

def widthOf (ts : List Token) : Nat :=
  ts.foldl (fun n t => n + t.chars.length) 0

def faultAt : List Token → Fault
  | [] => ⟨.endOfText, 0⟩
  | t :: ts => ⟨.unexpected (String.ofList t.chars), widthOf (t :: ts)⟩

def refuse {α : Type} : Reader α := fun ts =>
  .error (faultAt ts)

def skipSpace (ts : List Token) : List Token :=
  ts.dropWhile Token.isSpace

def skipFill (ts : List Token) : List Token :=
  ts.dropWhile Token.isFill

/-! ## Keys -/

def keyPart : List Token → Token × List Token
  | .quoted quotes text :: rest => (.quoted quotes text, rest)
  | .word text :: rest => (.word text, rest)
  | rest => (.word [], rest)

def keyParts : Nat → List Token → RawKey × List Token
  | 0, ts => ([], ts)
  | bound + 1, ts =>
    let (part, rest) := keyPart (skipSpace ts)
    match skipSpace rest with
    | .mark '.' :: rest =>
      let (parts, rest) := keyParts bound rest
      (part :: parts, rest)
    | rest => ([part], rest)

def rawKey (ts : List Token) : RawKey × List Token :=
  keyParts (ts.length + 1) ts

/-! ## Values -/

/-- Words and points that stand together, or with nothing but spaces before a word. -/
def wordsAndPoints : List Token → List Char × List Token
  | .word text :: rest =>
    let r := wordsAndPoints rest
    (text ++ r.1, r.2)
  | .mark '.' :: rest =>
    let r := wordsAndPoints rest
    ('.' :: r.1, r.2)
  | .space blanks :: .word text :: rest =>
    let r := wordsAndPoints rest
    (blanks ++ text ++ r.1, r.2)
  | rest => ([], rest)

def bareScalar (ts : List Token) : RawValue × List Token :=
  let (text, rest) := wordsAndPoints ts
  (.scalar (.word text), rest)

def missingScalar : RawValue :=
  .scalar (.word [])

/-- Items separated by commas up to a closing mark; the last may be followed by a comma too. `bound`
exceeds their number. -/
def listRest {α : Type} (item : Reader α) (close : Char) : Nat → Reader (List α)
  | 0, ts => refuse ts
  | bound + 1, ts => do
    match skipFill ts with
    | [] => refuse []
    | t :: rest =>
      if t = .mark close then return ([], rest)
      else
        let (x, rest) ← item (t :: rest)
        match skipFill rest with
        | [] => refuse []
        | t :: rest =>
          if t = .mark close then return ([x], rest)
          else if t = .mark ',' then
            let (xs, rest) ← listRest item close bound rest
            return (x :: xs, rest)
          else refuse (t :: rest)

/-- An entry of an inline table; where the table closes early, the value is missing. -/
def entry (value : Reader RawValue) : Reader (RawKey × RawValue) := fun ts => do
  let (key, rest) := rawKey ts
  match skipFill rest with
  | .mark '\x7d' :: rest => return ((key, missingScalar), .mark '\x7d' :: rest)
  | .mark '=' :: rest =>
    match skipFill rest with
    | .mark '\x7d' :: rest => return ((key, missingScalar), .mark '\x7d' :: rest)
    | rest =>
      let (v, rest) ← value rest
      return ((key, v), rest)
  | rest => refuse rest

def maxDepth : Nat :=
  80

def rawValue : Nat → Reader RawValue
  | depth, ts =>
    match ts with
    | .quoted quotes text :: rest => .ok (.scalar (.quoted quotes text), rest)
    | .mark '[' :: rest =>
      match depth with
      | 0 => .error ⟨.tooDeep, widthOf rest⟩
      | depth + 1 =>
        (listRest (rawValue depth) ']' (rest.length + 1) rest).map fun r => (.array r.1, r.2)
    | .mark '\x7b' :: rest =>
      match depth with
      | 0 => .error ⟨.tooDeep, widthOf rest⟩
      | depth + 1 =>
        (listRest (entry (rawValue depth)) '\x7d' (rest.length + 1) rest).map fun r =>
          (.table r.1, r.2)
    | .mark '.' :: rest => .ok (bareScalar (.mark '.' :: rest))
    | .mark c :: rest => refuse (.mark c :: rest)
    | rest => .ok (bareScalar rest)

/-! ## Lines -/

def endOfLine (ts : List Token) : Except Fault (List Token) :=
  match skipSpace ts with
  | [] => .ok []
  | .newline _ :: rest => .ok rest
  | .comment _ :: .newline _ :: rest => .ok rest
  | [.comment _] => .ok []
  | rest => .error (faultAt rest)

def skipLine (ts : List Token) : List Token :=
  (ts.dropWhile (!·.isNewline)).drop 1

def isUnfinished (key : RawKey) : Bool :=
  key.getLast? = some (.word [])

/-- The line after the first bracket of a header: that of a table or, with doubled brackets, of one
more table of an array. Where the key is unfinished and no bracket follows it, the rest of the line
is passed over. -/
def headerLine : Reader Statement := fun ts => do
  let doubled := ts.head? == some (.mark '[')
  let (key, rest) := rawKey (if doubled then ts.drop 1 else ts)
  let s := if doubled then Statement.item key else .header key
  match doubled, rest with
  | true, .mark ']' :: .mark ']' :: rest => return (s, ← endOfLine rest)
  | true, .mark ']' :: rest => refuse rest
  | false, .mark ']' :: rest => return (s, ← endOfLine rest)
  | _, rest => if isUnfinished key then return (s, skipLine rest) else refuse rest

def assignmentLine : Reader Statement := fun ts => do
  match rawKey ts with
  | (key, .mark '=' :: rest) =>
    let (v, rest) ← rawValue maxDepth (skipSpace rest)
    return (.assign key v, ← endOfLine rest)
  | (_, rest) => refuse rest

/-- A line and the tokens from its start on. -/
structure Line where
  statement : Statement
  start : List Token

def lines : Nat → List Token → Except Fault (List Line)
  | 0, _ => .ok []
  | bound + 1, ts =>
    match skipFill ts with
    | [] => .ok []
    | t :: rest => do
      let (s, after) ← if t = .mark '[' then headerLine rest else assignmentLine (t :: rest)
      let more ← lines bound after
      return ⟨s, t :: rest⟩ :: more

def unsound : List Token → Option Fault
  | [] => none
  | t :: ts => if t.isSound then unsound ts else some ⟨.rawControl, widthOf (t :: ts)⟩

def linesOf (ts : List Token) : Except Fault (List Line) :=
  match unsound ts with
  | some f => .error f
  | none => lines (ts.length + 1) ts

end BeanGen.Toml
