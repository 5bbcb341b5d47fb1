/-!
# Texts

Blank characters are those with the `White_Space` property. A text is cut at the characters of any
class by `segments`; `runs` keeps the segments that hold something, so it gives the maximal
stretches free of that class, in order. A set of texts is the list of its members in ascending order
of code points, each once, and a table keyed by texts is the list of its entries in ascending order
of their keys, each key once.
-/

namespace BeanGen.Text

/-! ## Blank characters and the pieces between them -/

def isBlank (c : Char) : Bool :=
  let n := c.toNat
  (0x09 ≤ n && n ≤ 0x0D) || n == 0x20 || n == 0x85 || n == 0xA0 || n == 0x1680 ||
    (0x2000 ≤ n && n ≤ 0x200A) || n == 0x2028 || n == 0x2029 || n == 0x202F || n == 0x205F ||
    n == 0x3000

/-- The pieces of a text between the characters of a class, empty ones included. -/
def segments (gap : Char → Bool) : List Char → List (List Char)
  | [] => [[]]
  | c :: cs => if gap c then [] :: segments gap cs else (segments gap cs).modifyHead (c :: ·)

def runs (gap : Char → Bool) (cs : List Char) : List (List Char) :=
  (segments gap cs).filter (!·.isEmpty)

def trim (cs : List Char) : List Char :=
  ((cs.dropWhile isBlank).reverse.dropWhile isBlank).reverse

def allBlank (s : String) : Bool :=
  s.toList.all isBlank

theorem segments_ne_nil (gap : Char → Bool) (cs : List Char) : segments gap cs ≠ [] := by
  induction cs with
  | nil => simp [segments]
  | cons c cs ih =>
    rw [segments]
    split
    · simp
    · cases h : segments gap cs with
      | nil => exact absurd h ih
      | cons s ss => simp

/-! ## Positions -/

/-- A place in a text. Lines and columns count from one. -/
structure Position where
  line : Nat
  column : Nat
  deriving DecidableEq, Repr

def Position.next (p : Position) (c : Char) : Position :=
  if c = '\n' then ⟨p.line + 1, 1⟩ else ⟨p.line, p.column + 1⟩

/-- A reader that works on the rest of a text names a place by how many characters were left there. -/
def positionAt (text : List Char) (remaining : Nat) : Position :=
  (text.take (text.length - remaining)).foldl Position.next ⟨1, 1⟩

/-! ## Ascending lists -/

def insertAscending (s : String) : List String → List String
  | [] => [s]
  | t :: rest =>
    if s < t then s :: t :: rest
    else if s = t then t :: rest
    else t :: insertAscending s rest

def ascending (xs : List String) : List String :=
  xs.foldr insertAscending []

/-- The table with one more entry in its place, instead of one with the same key. -/
def insertEntry {α : Type} (key : String) (value : α) : List (String × α) → List (String × α)
  | [] => [(key, value)]
  | (k, v) :: rest =>
    if key < k then (key, value) :: (k, v) :: rest
    else if key = k then (key, value) :: rest
    else (k, v) :: insertEntry key value rest

end BeanGen.Text
