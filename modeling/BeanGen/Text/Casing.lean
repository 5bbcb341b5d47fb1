import BeanGen.Text.CaseTable
import BeanGen.Text.Basic

/-!
# Letter case

The upper and lower case of one character is a text, since a letter may grow (`ß` becomes `SS`).
`capitalize` and `decapitalize` change the first character only; `camelCase` drops underscores and
hyphens and raises the character after each, unless nothing has been written yet.
-/

namespace BeanGen.Text

def CaseRun.covers (r : CaseRun) (n : Nat) : Bool :=
  r.first ≤ n && n ≤ r.last && (n - r.first) % r.stride == 0

/-- The image of `c` under a case table: its expansion, else its shift, else itself. -/
def mapCase (expansions : List (Nat × List Nat)) (shifts : List CaseRun) (c : Char) : List Char :=
  match expansions.find? (·.1 == c.toNat) with
  | some (_, image) => image.map Char.ofNat
  | none =>
    match shifts.find? (·.covers c.toNat) with
    | some r => [Char.ofNat (c.toNat + r.offset).toNat]
    | none => [c]

def upper (c : Char) : List Char :=
  mapCase upperExpansions upperRuns c

def lower (c : Char) : List Char :=
  mapCase lowerExpansions lowerRuns c

def mapFirst (f : Char → List Char) : List Char → List Char
  | [] => []
  | c :: cs => f c ++ cs

def capitalize (s : String) : String :=
  String.ofList (mapFirst upper s.toList)

def decapitalize (s : String) : String :=
  String.ofList (mapFirst lower s.toList)

/-- What separates the words of a name: an underscore or a hyphen. -/
def isWordBreak (c : Char) : Bool :=
  c == '_' || c == '-'

/-- Reads on after some characters: `started` when something has been written, `raise` when the next
character written starts a word. -/
def camelFrom (started raise : Bool) : List Char → List Char
  | [] => []
  | c :: cs =>
    if isWordBreak c then camelFrom started started cs
    else if raise then upper c ++ camelFrom true false cs
    else c :: camelFrom true false cs

def camelCase (s : String) : String :=
  String.ofList (camelFrom false false s.toList)

def asciiLower (s : String) : String :=
  s.map Char.toLower

def asciiUpper (s : String) : String :=
  s.map Char.toUpper

end BeanGen.Text
