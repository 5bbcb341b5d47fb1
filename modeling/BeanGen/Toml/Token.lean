/-!
# Tokens of a TOML text

A text is cut into tokens before anything is asked of their contents: a string runs to its closing
quotes or, where those are missing, to the end of the line or of the text. Every token keeps the
characters it was cut from, so that together they spell the text again.
-/

namespace BeanGen.Toml

/-- The forms of a string: with escapes or without, on one line or on several. -/
inductive Quotes where
  | basic
  | literal
  | basicBlock
  | literalBlock
  deriving DecidableEq, Repr, Inhabited

/-- A token with its characters; those of a string include its quotes, those of a comment its `#`.
-/
inductive Token where
  | mark (c : Char)
  | space (text : List Char)
  | newline (text : List Char)
  | comment (text : List Char)
  | quoted (quotes : Quotes) (text : List Char)
  | word (text : List Char)
  deriving DecidableEq, Repr, Inhabited

def isMark (c : Char) : Bool :=
  c == '.' || c == '=' || c == ',' || c == '[' || c == ']' || c == '\x7b' || c == '\x7d'

def isSpace (c : Char) : Bool :=
  c == ' ' || c == '\t'

def isBreak (c : Char) : Bool :=
  c == '\n' || c == '\r'

def isControl (c : Char) : Bool :=
  (c.toNat < 0x20 && c != '\t') || c.toNat == 0x7F

def isWordChar (c : Char) : Bool :=
  !isMark c && !isSpace c && !isBreak c && c != '#'

/-- The text up to the closing quote of a string on one line, and what follows. `escapes` says that
a backslash guards the character after it, `guarded` that one has just done so. -/
def takeLine (quote : Char) (escapes : Bool) : Bool → List Char → List Char × List Char
  | _, [] => ([], [])
  | guarded, c :: cs =>
    if c = '\n' then ([], c :: cs)
    else if c = quote && !guarded then ([c], cs)
    else
      let r := takeLine quote escapes (escapes && c == '\\' && !guarded) cs
      (c :: r.1, r.2)

/-- How many quotes close a string on several lines at the front of a text: three, and up to two
more that still belong to its text. -/
def closingQuotes (quote : Char) (cs : List Char) : Nat :=
  let n := ((cs.take 5).takeWhile (· == quote)).length
  if n < 3 then 0 else n

/-- The text up to the closing quotes of a string on several lines, and what follows. -/
def takeBlock (quote : Char) (escapes : Bool) : Bool → List Char → List Char × List Char
  | _, [] => ([], [])
  | guarded, c :: cs =>
    if !guarded && closingQuotes quote (c :: cs) != 0 then
      (c :: cs).splitAt (closingQuotes quote (c :: cs))
    else
      let r := takeBlock quote escapes (escapes && c == '\\' && !guarded) cs
      (c :: r.1, r.2)

def takeString (quote : Char) (cs : List Char) : Token × List Char :=
  let escapes := quote == '"'
  match cs with
  | a :: b :: rest =>
    if a = quote && b = quote then
      let r := takeBlock quote escapes false rest
      (.quoted (if escapes then .basicBlock else .literalBlock) (quote :: a :: b :: r.1), r.2)
    else
      let r := takeLine quote escapes false (a :: b :: rest)
      (.quoted (if escapes then .basic else .literal) (quote :: r.1), r.2)
  | cs =>
    let r := takeLine quote escapes false cs
    (.quoted (if escapes then .basic else .literal) (quote :: r.1), r.2)

def takeBreak (c : Char) : List Char → Token × List Char
  | '\n' :: rest => if c = '\r' then (.newline [c, '\n'], rest) else (.newline [c], '\n' :: rest)
  | rest => (.newline [c], rest)

def takeToken (c : Char) (cs : List Char) : Token × List Char :=
  if isMark c then (.mark c, cs)
  else if isSpace c then (.space (c :: cs.takeWhile isSpace), cs.dropWhile isSpace)
  else if isBreak c then takeBreak c cs
  else if c = '#' then
    (.comment (c :: cs.takeWhile (!isBreak ·)), cs.dropWhile (!isBreak ·))
  else if c = '"' || c = '\'' then takeString c cs
  else (.word (c :: cs.takeWhile isWordChar), cs.dropWhile isWordChar)

/-- The tokens of a text; `bound` is not less than its length. -/
def tokensWithin : Nat → List Char → List Token
  | 0, _ => []
  | _, [] => []
  | bound + 1, c :: cs =>
    let r := takeToken c cs
    r.1 :: tokensWithin bound r.2

def tokens (cs : List Char) : List Token :=
  tokensWithin cs.length cs

namespace Token

def chars : Token → List Char
  | mark c => [c]
  | space text => text
  | newline text => text
  | comment text => text
  | quoted _ text => text
  | word text => text

def isSound : Token → Bool
  | newline text => text != ['\r']
  | comment text => !text.any isControl
  | _ => true

def isSpace : Token → Bool
  | space _ => true
  | _ => false

def isNewline : Token → Bool
  | newline _ => true
  | _ => false

def isFill : Token → Bool
  | space _ => true
  | newline _ => true
  | comment _ => true
  | _ => false

end Token

/-! ## Nothing is lost -/

theorem takeLine_append (quote : Char) (escapes guarded : Bool) (cs : List Char) :
    (takeLine quote escapes guarded cs).1 ++ (takeLine quote escapes guarded cs).2 = cs := by
  induction cs generalizing guarded with
  | nil => rfl
  | cons c cs ih =>
    rw [takeLine]
    split
    · rfl
    · split
      · rfl
      · simp [ih]

theorem takeBlock_append (quote : Char) (escapes guarded : Bool) (cs : List Char) :
    (takeBlock quote escapes guarded cs).1 ++ (takeBlock quote escapes guarded cs).2 = cs := by
  induction cs generalizing guarded with
  | nil => rfl
  | cons c cs ih =>
    rw [takeBlock]
    split
    · simp [List.splitAt_eq]
    · simp [ih]

theorem takeString_append (quote : Char) (cs : List Char) :
    (takeString quote cs).1.chars ++ (takeString quote cs).2 = quote :: cs := by
  unfold takeString
  split
  · split
    · simp [Token.chars, takeBlock_append]
    · simp [Token.chars, takeLine_append]
  · simp [Token.chars, takeLine_append]

theorem takeBreak_append (c : Char) (cs : List Char) :
    (takeBreak c cs).1.chars ++ (takeBreak c cs).2 = c :: cs := by
  unfold takeBreak
  split
  · split <;> rfl
  · rfl

theorem takeToken_append (c : Char) (cs : List Char) :
    (takeToken c cs).1.chars ++ (takeToken c cs).2 = c :: cs := by
  unfold takeToken
  split
  · rfl
  · split
    · simp [Token.chars]
    · split
      · exact takeBreak_append c cs
      · split
        · simp [Token.chars]
        · split
          · exact takeString_append c cs
          · simp [Token.chars]

theorem takeString_chars_ne_nil (quote : Char) (cs : List Char) :
    (takeString quote cs).1.chars ≠ [] := by
  unfold takeString
  split
  · split <;> simp [Token.chars]
  · simp [Token.chars]

theorem takeBreak_chars_ne_nil (c : Char) (cs : List Char) : (takeBreak c cs).1.chars ≠ [] := by
  unfold takeBreak
  split
  · split <;> simp [Token.chars]
  · simp [Token.chars]

theorem takeToken_chars_ne_nil (c : Char) (cs : List Char) : (takeToken c cs).1.chars ≠ [] := by
  unfold takeToken
  split
  · simp [Token.chars]
  · split
    · simp [Token.chars]
    · split
      · exact takeBreak_chars_ne_nil c cs
      · split
        · simp [Token.chars]
        · split
          · exact takeString_chars_ne_nil c cs
          · simp [Token.chars]

theorem takeToken_length (c : Char) (cs : List Char) :
    (takeToken c cs).2.length ≤ cs.length := by
  have whole := congrArg List.length (takeToken_append c cs)
  have front := List.length_pos_iff.mpr (takeToken_chars_ne_nil c cs)
  simp only [List.length_append, List.length_cons] at whole
  omega

theorem tokensWithin_chars {bound : Nat} {cs : List Char} (h : cs.length ≤ bound) :
    (tokensWithin bound cs).flatMap Token.chars = cs := by
  induction bound generalizing cs with
  | zero =>
    have : cs = [] := List.length_eq_zero_iff.mp (by omega)
    simp [this, tokensWithin]
  | succ bound ih =>
    cases cs with
    | nil => rfl
    | cons c cs =>
      have shorter := takeToken_length c cs
      simp only [List.length_cons] at h
      rw [tokensWithin, List.flatMap_cons, ih (by omega), takeToken_append]

theorem tokens_chars (cs : List Char) : (tokens cs).flatMap Token.chars = cs :=
  tokensWithin_chars (Nat.le_refl _)

end BeanGen.Toml
