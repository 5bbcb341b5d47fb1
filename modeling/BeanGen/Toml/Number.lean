import BeanGen.Toml.Basic

/-!
# TOML numbers

A number is accepted by its form: where digits, underscores, point and exponent stand. Its value is
asked for apart from that. An integer holds 128 bits and a float is finite; a number that no value
can hold keeps its text. The form of a grouped integer leaves open which digits its later groups
hold, so that some texts are accepted that have no value at all.
-/

namespace BeanGen.Toml

/-! ## Digits -/

/-- The value of a digit in a base of at most sixteen. -/
def digitIn? (base : Nat) (c : Char) : Option Nat :=
  let v :=
    if '0' ≤ c && c ≤ '9' then some (c.toNat - '0'.toNat)
    else if 'a' ≤ c && c ≤ 'f' then some (c.toNat - 'a'.toNat + 10)
    else if 'A' ≤ c && c ≤ 'F' then some (c.toNat - 'A'.toNat + 10)
    else none
  v.filter (· < base)

def isDigitIn (base : Nat) (c : Char) : Bool :=
  (digitIn? base c).isSome

def natIn (base : Nat) (ds : List Char) : Nat :=
  ds.foldl (fun n c => base * n + (digitIn? base c).getD 0) 0

/-- The value of digits in a base; `none` if there is none or another character among them. -/
def natIn? (base : Nat) (ds : List Char) : Option Nat :=
  if !ds.isEmpty && ds.all (isDigitIn base) then some (natIn base ds) else none

def ungroup (cs : List Char) : List Char :=
  cs.filter (· != '_')

/-- Whether every underscore stands between digits; `after` says that a digit stands before the
text. -/
def groupsFrom (isDigit : Char → Bool) : Bool → List Char → Bool
  | _, [] => true
  | after, '_' :: rest => after && rest.head?.any isDigit && groupsFrom isDigit false rest
  | _, c :: rest => groupsFrom isDigit (isDigit c) rest

def isGrouped (isDigit : Char → Bool) (cs : List Char) : Bool :=
  groupsFrom isDigit false cs

def takeSign : List Char → Bool × List Char
  | '-' :: rest => (true, rest)
  | '+' :: rest => (false, rest)
  | cs => (false, cs)

def withSign (negative : Bool) (n : Nat) : Int :=
  if negative then -Int.ofNat n else Int.ofNat n

/-! ## Integers -/

def fits128 (n : Int) : Bool :=
  -Int.ofNat (Nat.pow 2 127) ≤ n && n < Int.ofNat (Nat.pow 2 128)

/-- The integer of a text, which is kept where no integer of 128 bits is meant. -/
def integerNode (text : List Char) (value : Option Int) : Node :=
  match value with
  | some n => if fits128 n then .integer n else .beyond (String.ofList text)
  | none => .beyond (String.ofList text)

def decimalInteger? (cs : List Char) : Option Node :=
  if isGrouped (isDigitIn 16) cs then
    let (negative, ds) := takeSign (ungroup cs)
    some (integerNode cs ((natIn? 10 ds).map (withSign negative)))
  else none

def base? (c : Char) : Option Nat :=
  if c = 'x' then some 16
  else if c = 'o' then some 8
  else if c = 'b' then some 2
  else none

def basedInteger? (base : Nat) (cs : List Char) : Option Node :=
  if isGrouped (isDigitIn 16) cs && (ungroup cs).all (isDigitIn base) then
    some (integerNode cs ((natIn? base (ungroup cs)).map Int.ofNat))
  else none

/-! ## Floats -/

/-- The double nearest to `m * 10 ^ e`; `none` if it is not finite. -/
def finite? (m : Nat) (e : Int) : Option Float :=
  if m == 0 then some 0.0
  else if 400 < Int.ofNat (toString m).length + e then none
  else if Int.ofNat (toString m).length + e < -400 then some 0.0
  else
    let x := Float.ofScientific m (e < 0) e.natAbs
    if x.isInf then none else some x

/-- The digits of a run of digits and underscores, and what follows the run; `none` if it holds no
digit. -/
def digitRun? (cs : List Char) : Option (List Char × List Char) :=
  let inRun : Char → Bool := fun c => c.isDigit || c == '_'
  let ds := ungroup (cs.takeWhile inRun)
  if ds.isEmpty then none else some (ds, cs.dropWhile inRun)

/-- The digits before the point; a zero may only stand at their front if it stands alone. -/
def wholeRun? (cs : List Char) : Option (List Char × List Char) :=
  (digitRun? cs).filter fun r => r.1.length == 1 || r.1.head? != some '0'

def fractionRun? : List Char → Option (List Char × List Char)
  | '.' :: rest => digitRun? rest
  | cs => some ([], cs)

def powerRun? : List Char → Option (Int × List Char)
  | [] => some (0, [])
  | c :: rest =>
    if c == 'e' || c == 'E' then
      let (negative, rest) := takeSign rest
      (digitRun? rest).map fun r => (withSign negative (natIn 10 r.1), r.2)
    else some (0, c :: rest)

def decimalParts? (cs : List Char) : Option (Nat × Int) := do
  let (whole, cs) ← wholeRun? cs
  let (fraction, cs) ← fractionRun? cs
  let (power, cs) ← powerRun? cs
  if cs.isEmpty then return (natIn 10 (whole ++ fraction), power - Int.ofNat fraction.length)
  else none

def decimalFloat? (cs : List Char) : Option Node := do
  let (negative, unsigned) := takeSign cs
  let (m, e) ← decimalParts? unsigned
  if isGrouped Char.isDigit cs then
    match finite? m e with
    | some x => return .float (if negative then -x else x)
    | none => return .beyond (String.ofList cs)
  else none

def namedFloat? (cs : List Char) : Option Float :=
  let (negative, cs) := takeSign cs
  if cs = ['i', 'n', 'f'] then some (if negative then -1.0 / 0.0 else 1.0 / 0.0)
  else if cs = ['n', 'a', 'n'] then some (0.0 / 0.0)
  else none

end BeanGen.Toml
