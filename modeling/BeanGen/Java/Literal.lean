/-!
# Literals

Quotes, backslashes and the controls for new line, carriage return and tab are escaped; every other
character stands for itself.
-/

namespace BeanGen.Java

def literalChar (quote c : Char) : List Char :=
  if c = quote then ['\\', quote]
  else if c = '\\' then ['\\', '\\']
  else if c = '\n' then ['\\', 'n']
  else if c = '\r' then ['\\', 'r']
  else if c = '\t' then ['\\', 't']
  else [c]

def stringLiteral (value : String) : String :=
  String.ofList ('"' :: (value.toList.flatMap (literalChar '"') ++ ['"']))

/-- The first character of a text as a character literal; the empty text gives the null character.
-/
def charLiteral (value : String) : String :=
  let body := match value.toList with
    | [] => ['\\', '0']
    | c :: _ => literalChar '\'' c
  String.ofList ('\'' :: (body ++ ['\'']))

def booleanLiteral (b : Bool) : String :=
  if b then "true" else "false"

/-- A text as a string literal, or `null` where there is none. -/
def optionalLiteral : Option String → String
  | some value => stringLiteral value
  | none => "null"

end BeanGen.Java
