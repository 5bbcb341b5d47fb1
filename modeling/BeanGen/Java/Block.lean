/-!
# Indented lines

A block is a list of lines, each with its depth, and the depth at which the next line is added. It
is rendered with four spaces a level; an empty line stays empty.
-/

namespace BeanGen.Java

/-- One line of source with its depth. -/
structure Line where
  depth : Nat
  text : String
  deriving DecidableEq, Repr, Inhabited

/-- Lines of source, and the depth of the line to come. -/
structure Block where
  lines : List Line
  depth : Nat
  deriving DecidableEq, Repr, Inhabited

def indentWidth : Nat :=
  4

def Line.render (base : Nat) (l : Line) : String :=
  if l.text.isEmpty then "" else "".pushn ' ' ((base + l.depth) * indentWidth) ++ l.text

def Line.shift (n : Nat) (l : Line) : Line :=
  { l with depth := n + l.depth }

def line (text : String) : Line :=
  ⟨0, text⟩

def indented (text : String) : Line :=
  ⟨1, text⟩

def nested (lines : List Line) : List Line :=
  lines.map (Line.shift 1)

namespace Block

def empty : Block :=
  ⟨[], 0⟩

def ofLines (lines : List Line) : Block :=
  ⟨lines, 0⟩

def add (b : Block) (text : String) : Block :=
  { b with lines := b.lines ++ [⟨b.depth, text⟩] }

def addIndented (b : Block) (text : String) : Block :=
  { b with lines := b.lines ++ [⟨b.depth + 1, text⟩] }

def append (b : Block) (text : String) : Block :=
  match b.lines.getLast? with
  | none => b.add text
  | some l => { b with lines := b.lines.dropLast ++ [{ l with text := l.text ++ text }] }

def indent (b : Block) : Block :=
  { b with depth := b.depth + 1 }

def outdent (b : Block) : Block :=
  { b with depth := b.depth - 1 }

def extend (b other : Block) : Block :=
  { b with lines := b.lines ++ other.lines.map (Line.shift b.depth) }

def addLines (b : Block) (lines : List Line) : Block :=
  { b with lines := b.lines ++ lines.map (Line.shift b.depth) }

def mentions (b : Block) (needle : String) : Bool :=
  b.lines.any fun l => l.text.contains needle

/-- The lines as text, shifted right by `base` levels, each ended by a line break. -/
def render (b : Block) (base : Nat) : String :=
  String.join (b.lines.map fun l => l.render base ++ "\n")

end Block

end BeanGen.Java
