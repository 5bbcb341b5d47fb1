import BeanGen.Json.Basic

/-!
# JSON numbers

A number is taken apart into digits first and valued afterwards. The significand takes in digits as
long as it fits 64 bits; later digits before the point only count, later ones after it are dropped.
Without fraction, exponent and surplus the number is an integer if it fits 64 bits with its sign.
Otherwise it is the significand as a double, multiplied or divided by a power of ten, so the last
place may differ from the nearest double.
-/

namespace BeanGen.Json

/-- The digits of a number as written. -/
structure Numeral where
  negative : Bool
  whole : List Char
  fraction : Option (List Char)
  /-- Sign and digits of the exponent; `true` is a minus. -/
  exponent : Option (Bool × List Char)
  deriving DecidableEq, Repr

def digitValue (c : Char) : Nat :=
  c.toNat - '0'.toNat

def natOfDigits (ds : List Char) : Nat :=
  ds.foldl (fun n c => 10 * n + digitValue c) 0

/-- Takes digits into a significand while it fits 64 bits; gives it with the digits left over. -/
def absorb (significand : Nat) : List Char → Nat × List Char
  | [] => (significand, [])
  | c :: cs =>
    let next := 10 * significand + digitValue c
    if next < Nat.pow 2 64 then absorb next cs else (significand, c :: cs)

def powerOfTen (n : Nat) : Float :=
  Float.ofScientific 1 false n

def topPower : Nat :=
  308

/-- Scales a double by `10 ^ e`; `none` if it grows too large. A large negative exponent is taken
off in pieces of `10 ^ 308`, of which `pieces` bounds the number. -/
def scale (x : Float) (e : Int) : Nat → Option Float
  | 0 => some x
  | pieces + 1 =>
    if e.natAbs ≤ topPower then
      if 0 ≤ e then
        let y := x * powerOfTen e.toNat
        if y.isInf then none else some y
      else some (x / powerOfTen e.natAbs)
    else if x == 0 then some x
    else if 0 ≤ e then none
    else scale (x / powerOfTen topPower) (e + topPower) pieces

def minInt32 : Int :=
  -2147483648

def maxInt32 : Int :=
  2147483647

def clamp32 (e : Int) : Int :=
  if e < minInt32 then minInt32 else if maxInt32 < e then maxInt32 else e

def floatOfParts (negative : Bool) (significand : Nat) (e : Int) : Option Json :=
  (scale significand.toUInt64.toFloat e (e.natAbs / topPower + 2)).map fun x =>
    .float (if negative then -x else x)

/-- An integer, or the nearest double where the sign leaves no 64-bit integer. -/
def wholeNumber (negative : Bool) (n : Nat) : Json :=
  if !negative then .int n
  else if n == 0 || Nat.pow 2 63 < n then .float (-n.toUInt64.toFloat)
  else .int (-n)

/-- The value of a numeral; `none` if it is out of range. -/
def Numeral.value? (l : Numeral) : Option Json :=
  let (whole, surplus) := absorb 0 l.whole
  let (significand, e) := match l.fraction with
    | none => (whole, Int.ofNat surplus.length)
    | some ds =>
      let (s, dropped) := absorb whole ds
      (s, Int.ofNat surplus.length - Int.ofNat (ds.length - dropped.length))
  match l.exponent with
  | none =>
    if l.fraction.isNone && surplus.isEmpty then some (wholeNumber l.negative significand)
    else floatOfParts l.negative significand e
  | some (minus, ds) =>
    let power := Int.ofNat (natOfDigits ds)
    if maxInt32 < power then
      if significand != 0 && !minus then none
      else some (.float (if l.negative then -0.0 else 0.0))
    else floatOfParts l.negative significand (clamp32 (if minus then e - power else e + power))

end BeanGen.Json
