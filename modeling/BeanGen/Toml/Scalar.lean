import BeanGen.Toml.Moment

/-!
# TOML scalars without quotes

What a scalar is meant to be is decided by its first characters: a letter starts a name, a sign or a
digit a number or a moment, and what follows the first digits tells these apart. The rest of the
text has to bear that out.
-/

namespace BeanGen.Toml

def isFloatMark (c : Char) : Bool :=
  c == '.' || c == 'e' || c == 'E'

/-- A number in decimal or a moment; `unsigned` is the text without its sign. -/
def decimalOrMoment? (cs unsigned : List Char) : Option Node :=
  match unsigned.dropWhile Char.isDigit with
  | [] => if unsigned.head? = some '0' then none else decimalInteger? cs
  | c :: rest =>
    if c == '-' || c == ':' then if isMoment cs then some (.moment (String.ofList cs)) else none
    else if (c :: rest).contains ' ' then none
    else if (c :: rest).any isFloatMark then decimalFloat? cs
    else if c == '_' && unsigned.head? != some '0' then decimalInteger? cs
    else none

/-- A scalar that starts with a sign or a digit. A base may only be named where there is no sign. -/
def numberOrMoment? (cs : List Char) : Option Node :=
  let (_, unsigned) := takeSign cs
  match unsigned with
  | ['0'] => decimalInteger? cs
  | '0' :: c :: digits =>
    match base? c with
    | some base => if unsigned = cs then basedInteger? base digits else none
    | none => decimalOrMoment? cs unsigned
  | c :: _ => if c.isDigit then decimalOrMoment? cs unsigned else none
  | [] => none

/-- The value of a scalar without quotes; `none` if the text is none. -/
def scalar? (cs : List Char) : Option Node :=
  if cs = ['t', 'r', 'u', 'e'] then some (.flag true)
  else if cs = ['f', 'a', 'l', 's', 'e'] then some (.flag false)
  else
    match namedFloat? cs with
    | some x => some (.float x)
    | none => numberOrMoment? cs

def scalar (cs : List Char) : Except Problem Node :=
  match scalar? cs with
  | some n => .ok n
  | none => .error (.badScalar (String.ofList cs))

end BeanGen.Toml
