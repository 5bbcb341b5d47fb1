import BeanGen.Toml.Number

/-!
# TOML moments

A moment is a date, a time of day, or a date and a time with or without an offset from universal
time. It must name an existing day and time.
-/

namespace BeanGen.Toml

/-- Exactly `n` decimal digits at the front of a text. -/
def digitsOf? (n : Nat) (cs : List Char) : Option (Nat × List Char) :=
  let ds := cs.take n
  if ds.length == n && ds.all Char.isDigit then some (natIn 10 ds, cs.drop n) else none

def mark? (c : Char) : List Char → Option (List Char)
  | d :: rest => if c = d then some rest else none
  | [] => none

def isLeap (year : Nat) : Bool :=
  year % 4 == 0 && (year % 100 != 0 || year % 400 == 0)

def daysOf (year month : Nat) : Nat :=
  if month == 2 then if isLeap year then 29 else 28
  else if month == 4 || month == 6 || month == 9 || month == 11 then 30
  else 31

def date? (cs : List Char) : Option (List Char) := do
  let (year, cs) ← digitsOf? 4 cs
  let cs ← mark? '-' cs
  let (month, cs) ← digitsOf? 2 cs
  let cs ← mark? '-' cs
  let (day, cs) ← digitsOf? 2 cs
  if 1 ≤ month && month ≤ 12 && 1 ≤ day && day ≤ daysOf year month then some cs else none

/-- The fraction of a second at the front of a text, if there is one. -/
def subsecond? : List Char → Option (List Char)
  | '.' :: c :: rest => if c.isDigit then some (rest.dropWhile Char.isDigit) else none
  | '.' :: [] => none
  | cs => some cs

/-- A time of day at the front of a text; its seconds may be left out. -/
def time? (cs : List Char) : Option (List Char) := do
  let (hour, cs) ← digitsOf? 2 cs
  let cs ← mark? ':' cs
  let (minute, cs) ← digitsOf? 2 cs
  if 23 < hour || 59 < minute then none
  else
    match cs with
    | ':' :: cs => do
      let (second, cs) ← digitsOf? 2 cs
      if 60 < second then none else subsecond? cs
    | cs => some cs

/-- The offset from universal time at the end of a text, if there is one. -/
def offset? : List Char → Option (List Char)
  | [] => some []
  | 'Z' :: rest => some rest
  | 'z' :: rest => some rest
  | c :: rest =>
    if c == '+' || c == '-' then do
      let (hour, rest) ← digitsOf? 2 rest
      let rest ← mark? ':' rest
      let (minute, rest) ← digitsOf? 2 rest
      if 23 < hour || 59 < minute then none else some rest
    else none

/-- Whether a text is a date, a time, or a date and a time with or without an offset. -/
def isMoment (cs : List Char) : Bool :=
  match date? cs with
  | some [] => true
  | some (c :: rest) =>
    (c == 'T' || c == 't' || c == ' ') && ((time? rest).bind offset?) == some []
  | none => time? cs == some []

end BeanGen.Toml
