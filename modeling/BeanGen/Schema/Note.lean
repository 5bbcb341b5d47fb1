import BeanGen.Text.Basic

/-!
# Documentation notes

A schema component carries notes, each with entries of documentation. Their text becomes a comment
in the generated source, so it is put on one line and made unable to end a block comment.
-/

namespace BeanGen

/-- One entry of documentation; without content when it only holds markup. -/
structure Documentation where
  content : Option String
  source : Option String
  deriving DecidableEq, Repr, Inhabited

structure SchemaNote where
  entries : List Documentation
  deriving DecidableEq, Repr, Inhabited

namespace Text

def shieldComment : List Char → List Char
  | '*' :: '/' :: rest => '*' :: '\\' :: '/' :: shieldComment rest
  | c :: rest => c :: shieldComment rest
  | [] => []

/-- The words of a text joined by single spaces, unable to end a block comment. -/
def oneLine (s : String) : String :=
  let words := runs isBlank s.toList
  String.ofList (shieldComment (words.intersperse [' ']).flatten)

end Text

def noteText (notes : List SchemaNote) : String :=
  String.join ((notes.flatMap (·.entries)).filterMap (·.content))

/-- The comment that notes give; none if there are no notes. -/
def commentOf? (notes : List SchemaNote) : Option String :=
  if notes.isEmpty then none else some (Text.oneLine (noteText notes))

def visibleComment? (notes : List SchemaNote) : Option String :=
  (commentOf? notes).filter (!·.isEmpty)

end BeanGen
