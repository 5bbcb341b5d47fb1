import BeanGen.Conflict.Inquiry
import BeanGen.Text.Basic
import BeanGen.Text.Casing

/-!
# Answers from a terminal

A question is printed with its possible answers and then read from the input, one line at a time.
The first character of a line that is not blank is the answer, a capital letter like its small one.
A line without a possible answer is met with the legend and the question again. The end of the
input, or a line that is no text, counts as `n`.
-/

namespace BeanGen.Conflict.Terminal

abbrev RawLine :=
  List UInt8

def lineBreak : UInt8 :=
  10

/-- Cuts an input into lines, each with its line break; the last may lack one. -/
def linesOf : List UInt8 → List RawLine
  | [] => []
  | b :: bs =>
    if b = lineBreak then [b] :: linesOf bs
    else
      match linesOf bs with
      | [] => [[b]]
      | l :: ls => (b :: l) :: ls

/-- The text of a line; `none` if its bytes are no UTF-8. -/
def decodeLine (l : RawLine) : Option String :=
  String.fromUTF8? (ByteArray.mk l.toArray)

def firstLetter? (line : String) : Option Char :=
  ((line.toList.dropWhile Text.isBlank).head?).map Char.toLower

def prompt (q : Question) : String :=
  q.message ++ " (" ++ String.intercalate "/" (q.responses.toList.map String.singleton) ++ ")? "

/-- What a line says to a question. -/
inductive Verdict where
  | accepted (answer : Char)
  | rejected
  | unreadable
  deriving DecidableEq, Repr

def judge (q : Question) (l : RawLine) : Verdict :=
  match decodeLine l with
  | none => .unreadable
  | some line =>
    match firstLetter? line with
    | none => .rejected
    | some c => if q.responses.toList.contains c then .accepted c else .rejected

def reminder (q : Question) : String :=
  q.legend ++ "\n"

def confirm : Dialog (List RawLine) := fun q => go q
where
  go (q : Question) : List RawLine → Reply (List RawLine)
    | [] => ⟨'n', [], [.printed (prompt q), .noted .noAnswer]⟩
    | l :: rest =>
      match judge q l with
      | .accepted c => ⟨c, rest, [.printed (prompt q)]⟩
      | .unreadable => ⟨'n', rest, [.printed (prompt q), .noted .noAnswer]⟩
      | .rejected =>
        let r := go q rest
        { r with trace := .printed (prompt q) :: .printed (reminder q) :: r.trace }

end BeanGen.Conflict.Terminal
