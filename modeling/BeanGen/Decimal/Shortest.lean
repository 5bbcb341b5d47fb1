/-!
# The shortest decimal for a binary number

A finite binary number is `m * 2 ^ q`. Every real in the interval halfway to its neighbours rounds
to it, the ends included exactly when `m` is even. Going from coarse decimal grids to finer ones,
the first grid with a point in that interval gives the fewest digits; of two such points the nearer
one is taken, and of two equally near ones the even one.
-/

namespace BeanGen.Decimal

/-- The number `digits * 10 ^ exponent`. -/
structure Scaled where
  digits : Nat
  exponent : Int
  deriving DecidableEq, Repr

/-- A positive binary number by its significand and exponent, with the reals that round to it. All
three are multiples of `2 ^ unit`. -/
structure Interval where
  low : Nat
  value : Nat
  high : Nat
  unit : Int
  closed : Bool

/-- Numerator and denominator of `2 ^ e * 10 ^ f`. -/
def ratio (e f : Int) : Nat × Nat :=
  (Nat.pow 2 e.toNat * Nat.pow 10 f.toNat, Nat.pow 2 (-e).toNat * Nat.pow 10 (-f).toNat)

/-- Whether the grid point `c * 10 ^ g` rounds to the number; `n / d` is `2 ^ unit / 10 ^ g`. -/
def Interval.holds (i : Interval) (n d c : Nat) : Bool :=
  if i.closed then i.low * n ≤ c * d && c * d ≤ i.high * n
  else i.low * n < c * d && c * d < i.high * n

/-- The point of the grid `10 ^ g` that stands for the number, if the grid is fine enough. -/
def Interval.onGrid (i : Interval) (g : Int) : Option Nat :=
  let (n, d) := ratio i.unit (-g)
  let below := i.value * n / d
  let above := below + 1
  match i.holds n d below && below != 0, i.holds n d above with
  | true, true =>
    let fromBelow := i.value * n - below * d
    let fromAbove := above * d - i.value * n
    if fromBelow < fromAbove || (fromBelow == fromAbove && below % 2 == 0) then some below
    else some above
  | true, false => some below
  | false, true => some above
  | false, false => none

/-- The first point found on the grids `10 ^ g`, `10 ^ (g - 1)`, …; `steps` bounds their number. -/
def Interval.search (i : Interval) : Nat → Int → Scaled
  | 0, g =>
    let (n, d) := ratio i.unit (-g)
    ⟨i.value * n / d, g⟩
  | steps + 1, g =>
    match i.onGrid g with
    | some c => ⟨c, g⟩
    | none => i.search steps (g - 1)

/-- The interval of a double with significand `m` and exponent `q`; below a power of two the
neighbour is only half as far away. -/
def Interval.ofDouble (m : Nat) (q : Int) : Interval :=
  let step := if m == Nat.pow 2 52 && q != -1074 then 1 else 2
  ⟨4 * m - step, 4 * m, 4 * m + 2, q - 2, m % 2 == 0⟩

/-- The shortest decimal of the double `m * 2 ^ q`. Seventeen digits always suffice. -/
def shortest (m : Nat) (q : Int) : Scaled :=
  let i := Interval.ofDouble m q
  let top := (Int.ofNat m.log2 + q) * 30103 / 100000 + 2
  i.search 24 top

def parts (x : Float) : Bool × Nat × Int :=
  let bits := x.toBits.toNat
  let negative := bits / Nat.pow 2 63 == 1
  let biased := bits / Nat.pow 2 52 % 2048
  let fraction := bits % Nat.pow 2 52
  if biased == 0 then (negative, fraction, -1074)
  else (negative, fraction + Nat.pow 2 52, Int.ofNat biased - 1075)

def exponentText (e : Int) : String :=
  if e < 0 then "e" ++ toString e else "e+" ++ toString e

/-- A finite double in decimal: positional where the point falls among the first sixteen digits or
within four zeros after `0.`, otherwise with an exponent; a whole number keeps `.0`. -/
def floatText (x : Float) : String :=
  let (negative, m, q) := parts x
  let sign := if negative then "-" else ""
  if m == 0 then sign ++ "0.0"
  else
    let s := shortest m q
    let ds := toString s.digits
    let point := Int.ofNat ds.length + s.exponent
    let body :=
      if 0 ≤ s.exponent && point ≤ 16 then
        ds ++ "".pushn '0' s.exponent.toNat ++ ".0"
      else if 0 < point && point ≤ 16 then
        String.ofList (ds.toList.take point.toNat) ++ "." ++
          String.ofList (ds.toList.drop point.toNat)
      else if -5 < point && point ≤ 0 then
        "0." ++ "".pushn '0' (-point).toNat ++ ds
      else
        let tail := ds.toList.drop 1
        let lead := String.ofList (ds.toList.take 1)
        let mantissa := if tail.isEmpty then lead else lead ++ "." ++ String.ofList tail
        mantissa ++ exponentText (point - 1)
    sign ++ body

end BeanGen.Decimal
