import BeanGen.Json.Basic
import BeanGen.Decimal.Shortest

/-!
# Printing JSON

A value on one line without blanks. In strings the quote, the backslash and the controls are
escaped, and nothing else is.
-/

namespace BeanGen.Json

def hex4 (n : Nat) : List Char :=
  ['0', '0', Nat.digitChar (n / 16 % 16), Nat.digitChar (n % 16)]

def printedChar (c : Char) : List Char :=
  if c = '"' then ['\\', '"']
  else if c = '\\' then ['\\', '\\']
  else if c = '\x08' then ['\\', 'b']
  else if c = '\x0c' then ['\\', 'f']
  else if c = '\n' then ['\\', 'n']
  else if c = '\r' then ['\\', 'r']
  else if c = '\t' then ['\\', 't']
  else if c.toNat < 0x20 then '\\' :: 'u' :: hex4 c.toNat
  else [c]

def printedText (s : String) : List Char :=
  '"' :: (s.toList.flatMap printedChar ++ ['"'])

mutual

def print : Json → List Char
  | .null => ['n', 'u', 'l', 'l']
  | .bool true => ['t', 'r', 'u', 'e']
  | .bool false => ['f', 'a', 'l', 's', 'e']
  | .int n => (toString n).toList
  | .float x => (Decimal.floatText x).toList
  | .str s => printedText s
  | .arr items => '[' :: (printItems items ++ [']'])
  | .obj members => '\x7b' :: (printMembers members ++ ['\x7d'])

def printItems : List Json → List Char
  | [] => []
  | [v] => print v
  | v :: w :: rest => print v ++ ',' :: printItems (w :: rest)

def printMembers : List (String × Json) → List Char
  | [] => []
  | [(k, v)] => printedText k ++ ':' :: print v
  | (k, v) :: m :: rest => printedText k ++ ':' :: (print v ++ ',' :: printMembers (m :: rest))

end

def render (v : Json) : String :=
  String.ofList v.print

end BeanGen.Json
