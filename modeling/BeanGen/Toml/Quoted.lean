import BeanGen.Toml.Basic
import BeanGen.Toml.Number
import BeanGen.Toml.Token

/-!
# TOML strings

What the characters of a string token stand for. Between double quotes a backslash starts an escape;
on several lines it may also stand at the end of a line and hides the break with all blanks after
it. A line break right after the opening of a string on several lines is dropped, every other one is
kept as it is written.
-/

namespace BeanGen.Toml

def codePoint? (ds : List Char) : Option Char :=
  if ds.all (isDigitIn 16) then
    let n := natIn 16 ds
    if n < 0xD800 || (0xDFFF < n && n < 0x110000) then some (Char.ofNat n) else none
  else none

def simpleEscape? (c : Char) : Option Char :=
  if c = 'b' then some '\x08'
  else if c = 't' then some '\t'
  else if c = 'n' then some '\n'
  else if c = 'f' then some '\x0c'
  else if c = 'r' then some '\r'
  else if c = 'e' then some '\x1b'
  else if c = '"' then some '"'
  else if c = '\\' then some '\\'
  else none

/-- The text of an escape, which may name no character, and of what follows it. -/
def escaped (c : Option Char) (more : Except Problem (List Char)) : Except Problem (List Char) :=
  match c with
  | some c => more.map (c :: ·)
  | none => .error .badEscape

def verbatim (c : Char) (more : Except Problem (List Char)) : Except Problem (List Char) :=
  if isControl c then .error .rawControl else more.map (c :: ·)

def basicText : List Char → Except Problem (List Char)
  | [] => .error .endOfText
  | ['"'] => .ok []
  | '\\' :: 'x' :: a :: b :: rest => escaped (codePoint? [a, b]) (basicText rest)
  | '\\' :: 'u' :: a :: b :: c :: d :: rest => escaped (codePoint? [a, b, c, d]) (basicText rest)
  | '\\' :: 'U' :: a :: b :: c :: d :: e :: f :: g :: h :: rest =>
    escaped (codePoint? [a, b, c, d, e, f, g, h]) (basicText rest)
  | '\\' :: c :: rest => escaped (simpleEscape? c) (basicText rest)
  | c :: rest => verbatim c (basicText rest)

def literalText : List Char → Except Problem (List Char)
  | [] => .error .endOfText
  | ['\''] => .ok []
  | c :: rest => verbatim c (literalText rest)

def newline? : List Char → Option (List Char)
  | '\n' :: rest => some rest
  | '\r' :: '\n' :: rest => some rest
  | _ => none

def endsLine (cs : List Char) : Bool :=
  (newline? (cs.dropWhile isSpace)).isSome

/-- The text of a string between triple double quotes, after the first three. `folding` says that
the blanks after a hidden line break are being left out. -/
def basicBlockText (folding : Bool) : List Char → Except Problem (List Char)
  | [] => .error .endOfText
  | ['"', '"', '"'] => .ok []
  | '\\' :: 'x' :: a :: b :: rest => escaped (codePoint? [a, b]) (basicBlockText false rest)
  | '\\' :: 'u' :: a :: b :: c :: d :: rest =>
    escaped (codePoint? [a, b, c, d]) (basicBlockText false rest)
  | '\\' :: 'U' :: a :: b :: c :: d :: e :: f :: g :: h :: rest =>
    escaped (codePoint? [a, b, c, d, e, f, g, h]) (basicBlockText false rest)
  | '\\' :: c :: rest =>
    if endsLine (c :: rest) then basicBlockText true (c :: rest)
    else escaped (simpleEscape? c) (basicBlockText false rest)
  | '\r' :: '\n' :: rest =>
    if folding then basicBlockText true rest
    else (basicBlockText false rest).map fun cs => '\r' :: '\n' :: cs
  | c :: rest =>
    if folding && (isSpace c || c == '\n') then basicBlockText true rest
    else if c == '\n' then (basicBlockText false rest).map (c :: ·)
    else verbatim c (basicBlockText false rest)

def literalBlockText : List Char → Except Problem (List Char)
  | [] => .error .endOfText
  | ['\'', '\'', '\''] => .ok []
  | '\r' :: '\n' :: rest => (literalBlockText rest).map fun cs => '\r' :: '\n' :: cs
  | c :: rest =>
    if c == '\n' then (literalBlockText rest).map (c :: ·) else verbatim c (literalBlockText rest)

def dropFirstBreak (cs : List Char) : List Char :=
  (newline? cs).getD cs

def unquote (quotes : Quotes) (cs : List Char) : Except Problem String :=
  let text :=
    match quotes with
    | .basic => basicText (cs.drop 1)
    | .literal => literalText (cs.drop 1)
    | .basicBlock => basicBlockText false (dropFirstBreak (cs.drop 3))
    | .literalBlock => literalBlockText (dropFirstBreak (cs.drop 3))
  text.map String.ofList

end BeanGen.Toml
