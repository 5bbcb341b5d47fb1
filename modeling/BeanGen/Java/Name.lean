/-!
# Qualified names

A qualified name is cut at its last point into a package and a simple name. A name without a point
is simple and lies in the package with the empty name.
-/

namespace BeanGen.Java

def splitLastPoint : List Char → Option (List Char × List Char)
  | [] => none
  | c :: cs =>
    match splitLastPoint cs with
    | some (before, after) => some (c :: before, after)
    | none => if c = '.' then some ([], cs) else none

def packageName (name : String) : String :=
  match splitLastPoint name.toList with
  | some (package, _) => String.ofList package
  | none => ""

def simpleName (name : String) : String :=
  match splitLastPoint name.toList with
  | some (_, simple) => String.ofList simple
  | none => name

def isQualified (name : String) : Bool :=
  name.toList.any (· == '.')

/-- Reserved words and literals, none of which can name a property. -/
def reservedWords : List String := [
  "abstract", "assert", "boolean", "break", "byte", "case", "catch", "char", "class",
  "const", "continue", "default", "do", "double", "else", "enum", "extends", "false",
  "final", "finally", "float", "for", "goto", "if", "implements", "import", "instanceof",
  "int", "interface", "long", "native", "new", "null", "package", "private", "protected",
  "public", "return", "short", "static", "strictfp", "super", "switch", "synchronized",
  "this", "throw", "throws", "transient", "true", "try", "void", "volatile", "while"]

def isIdentifier : List Char → Bool
  | [] => false
  | c :: cs => (c.isAlpha || c == '_') && cs.all fun c => c.isAlphanum || c == '_'

end BeanGen.Java
