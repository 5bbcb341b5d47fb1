import BeanGen.Json.Number
import BeanGen.Text.Basic

/-!
# Reading JSON

Recursive descent over the characters of a text. The depth of nesting is bounded, which also bounds
the recursion; the items of one array or object are bounded by the characters left. Of two members
with one key the later stays. A fault names the problem and the number of characters left.
-/

namespace BeanGen.Json

/-- What is wrong with a text that is not JSON. -/
inductive Problem where
  | endOfText
  | unexpected (c : Char)
  | badEscape
  | rawControl
  | numberOutOfRange
  | tooDeep
  deriving DecidableEq, Repr

/-- A problem, and how many characters were left when it was met. -/
structure Fault where
  problem : Problem
  remaining : Nat
  deriving DecidableEq, Repr

abbrev Reader (α : Type) :=
  List Char → Except Fault (α × List Char)

def maxDepth : Nat :=
  127

def faultAt : List Char → Fault
  | [] => ⟨.endOfText, 0⟩
  | c :: cs => ⟨.unexpected c, cs.length + 1⟩

def refuse {α : Type} : Reader α := fun cs =>
  .error (faultAt cs)

def isGap (c : Char) : Bool :=
  c == ' ' || c == '\n' || c == '\t' || c == '\r'

def skipGap (cs : List Char) : List Char :=
  cs.dropWhile isGap

def word {α : Type} (expected : List Char) (value : α) : Reader α := fun cs =>
  match expected with
  | [] => .ok (value, cs)
  | w :: ws =>
    match cs with
    | [] => refuse []
    | c :: rest => if c = w then word ws value rest else refuse (c :: rest)

def hexValue? (c : Char) : Option Nat :=
  if '0' ≤ c && c ≤ '9' then some (c.toNat - '0'.toNat)
  else if 'a' ≤ c && c ≤ 'f' then some (c.toNat - 'a'.toNat + 10)
  else if 'A' ≤ c && c ≤ 'F' then some (c.toNat - 'A'.toNat + 10)
  else none

def hex4? (a b c d : Char) : Option Nat := do
  let a ← hexValue? a
  let b ← hexValue? b
  let c ← hexValue? c
  let d ← hexValue? d
  return ((a * 16 + b) * 16 + c) * 16 + d

def ofSurrogates (high low : Nat) : Char :=
  Char.ofNat ((high - 0xD800) * 0x400 + (low - 0xDC00) + 0x10000)

def simpleEscape? (c : Char) : Option Char :=
  if c = '"' then some '"'
  else if c = '\\' then some '\\'
  else if c = '/' then some '/'
  else if c = 'b' then some '\x08'
  else if c = 'f' then some '\x0c'
  else if c = 'n' then some '\n'
  else if c = 'r' then some '\r'
  else if c = 't' then some '\t'
  else none

def consChar (c : Char) (result : Except Fault (List Char × List Char)) :
    Except Fault (List Char × List Char) :=
  result.map fun r => (c :: r.1, r.2)

/-- The rest of a string, after its opening quote. A lone surrogate is refused, and so is a control
character that is not escaped. -/
def stringRest : Reader (List Char)
  | [] => refuse []
  | '"' :: rest => .ok ([], rest)
  | '\\' :: 'u' :: a :: b :: c :: d :: rest =>
    match hex4? a b c d with
    | none => .error ⟨.badEscape, rest.length⟩
    | some high =>
      if 0xDC00 ≤ high && high ≤ 0xDFFF then .error ⟨.badEscape, rest.length⟩
      else if 0xD800 ≤ high && high ≤ 0xDBFF then
        match rest with
        | '\\' :: 'u' :: e :: f :: g :: h :: rest =>
          match hex4? e f g h with
          | none => .error ⟨.badEscape, rest.length⟩
          | some low =>
            if 0xDC00 ≤ low && low ≤ 0xDFFF then consChar (ofSurrogates high low) (stringRest rest)
            else .error ⟨.badEscape, rest.length⟩
        | _ => .error ⟨.badEscape, rest.length⟩
      else consChar (Char.ofNat high) (stringRest rest)
  | '\\' :: c :: rest =>
    match simpleEscape? c with
    | some e => consChar e (stringRest rest)
    | none => .error ⟨.badEscape, rest.length⟩
  | c :: rest =>
    if c.toNat < 0x20 then .error ⟨.rawControl, rest.length + 1⟩ else consChar c (stringRest rest)

def takeDigits (cs : List Char) : List Char × List Char :=
  (cs.takeWhile Char.isDigit, cs.dropWhile Char.isDigit)

def digits : Reader (List Char) := fun cs =>
  match takeDigits cs with
  | ([], rest) => refuse rest
  | (ds, rest) => .ok (ds, rest)

/-- The digits before the point: a lone zero, or digits that do not start with one. -/
def wholeDigits : Reader (List Char)
  | '0' :: c :: rest => if c.isDigit then refuse (c :: rest) else .ok (['0'], c :: rest)
  | cs => digits cs

def fraction? : Reader (Option (List Char))
  | '.' :: rest => (digits rest).map fun r => (some r.1, r.2)
  | cs => .ok (none, cs)

def exponent? : Reader (Option (Bool × List Char))
  | c :: rest =>
    if c == 'e' || c == 'E' then
      match rest with
      | '-' :: rest => (digits rest).map fun r => (some (true, r.1), r.2)
      | '+' :: rest => (digits rest).map fun r => (some (false, r.1), r.2)
      | rest => (digits rest).map fun r => (some (false, r.1), r.2)
    else .ok (none, c :: rest)
  | [] => .ok (none, [])

def numeral (negative : Bool) : Reader Numeral := fun cs => do
  let (whole, cs) ← wholeDigits cs
  let (fraction, cs) ← fraction? cs
  let (exponent, cs) ← exponent? cs
  return (⟨negative, whole, fraction, exponent⟩, cs)

def number (negative : Bool) : Reader Json := fun cs => do
  let (l, rest) ← numeral negative cs
  match l.value? with
  | some v => return (v, rest)
  | none => throw ⟨.numberOutOfRange, rest.length⟩

/-- Items separated by commas up to a closing character, the first of them at the front. `bound`
exceeds the number of items. -/
def itemsThen {α : Type} (item : Reader α) (close : Char) : Nat → Reader (List α)
  | 0, cs => refuse cs
  | bound + 1, cs => do
    let (x, rest) ← item cs
    match skipGap rest with
    | c :: rest =>
      if c = close then return ([x], rest)
      else if c = ',' then
        let (xs, rest) ← itemsThen item close bound rest
        return (x :: xs, rest)
      else refuse (c :: rest)
    | [] => refuse []

def listRest {α : Type} (item : Reader α) (close : Char) : Reader (List α) := fun cs =>
  match skipGap cs with
  | c :: rest =>
    if c = close then .ok ([], rest) else itemsThen item close (rest.length + 1) (c :: rest)
  | [] => refuse []

/-- A member of an object: a string, a colon and a value. -/
def memberOf (value : Reader Json) : Reader (String × Json) := fun cs =>
  match skipGap cs with
  | '"' :: rest => do
    let (key, rest) ← stringRest rest
    match skipGap rest with
    | ':' :: rest =>
      let (v, rest) ← value rest
      return ((String.ofList key, v), rest)
    | rest => refuse rest
  | rest => refuse rest

/-- A value, with blanks before it. `depth` levels may be opened. -/
def value : Nat → Reader Json
  | depth, cs =>
    match skipGap cs with
    | [] => refuse []
    | 'n' :: rest => word ['u', 'l', 'l'] .null rest
    | 't' :: rest => word ['r', 'u', 'e'] (.bool true) rest
    | 'f' :: rest => word ['a', 'l', 's', 'e'] (.bool false) rest
    | '"' :: rest => (stringRest rest).map fun r => (.str (String.ofList r.1), r.2)
    | '-' :: rest => number true rest
    | '[' :: rest =>
      match depth with
      | 0 => .error ⟨.tooDeep, rest.length⟩
      | depth + 1 => (listRest (value depth) ']' rest).map fun r => (.arr r.1, r.2)
    | '\x7b' :: rest =>
      match depth with
      | 0 => .error ⟨.tooDeep, rest.length⟩
      | depth + 1 =>
        (listRest (memberOf (value depth)) '\x7d' rest).map fun r => (ofMembers r.1, r.2)
    | c :: rest => if c.isDigit then number false (c :: rest) else refuse (c :: rest)

def read (text : String) : Except Fault Json := do
  let (v, rest) ← value maxDepth text.toList
  match skipGap rest with
  | [] => return v
  | rest => throw (faultAt rest)

def Problem.message : Problem → String
  | .endOfText => "the text ends too early"
  | .unexpected c => "unexpected character '" ++ c.toString ++ "'"
  | .badEscape => "invalid escape"
  | .rawControl => "control character in a string"
  | .numberOutOfRange => "number out of range"
  | .tooDeep => "values are nested too deep"

def Fault.message (text : String) (f : Fault) : String :=
  let p := Text.positionAt text.toList f.remaining
  s!"{f.problem.message} at line {p.line} column {p.column}"

end BeanGen.Json
