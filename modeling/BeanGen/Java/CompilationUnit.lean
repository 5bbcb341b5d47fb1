import BeanGen.Java.ClassDecl
import BeanGen.Run.Path
import BeanGen.Text.Basic

/-!
# Compilation units

A class as source text: package, imports in ascending order, comment, declaration, then fields,
constructors and methods, each after an empty line. The file lies in the directory its package
names.
-/

namespace BeanGen.Java

def commentLines (comment : Option String) : List Line :=
  match comment with
  | none => []
  | some text => [line "/**", line (" * " ++ text), line " */"]

def parameterList (ps : List Parameter) : String :=
  String.intercalate ", " (ps.map fun p => "final " ++ p.type ++ " " ++ p.name)

def FieldDecl.lines (f : FieldDecl) : List Line :=
  let value := match f.initializer with
    | none => ""
    | some e => " = " ++ e
  commentLines f.comment ++ [line (f.modifiers.leading ++ f.type ++ " " ++ f.name ++ value ++ ";")]

def ConstructorDecl.lines (className : String) (k : ConstructorDecl) : List Line :=
  commentLines k.comment ++
    [line (k.modifiers.leading ++ className ++ "(" ++ parameterList k.parameters ++ ") \x7b")] ++
    nested k.body.lines ++ [line "\x7d"]

def MethodDecl.headLines (m : MethodDecl) : List Line :=
  let head := m.modifiers.leading ++ m.returnType.getD "void" ++ " " ++ m.name ++ "(" ++
    parameterList m.parameters ++ ")"
  if m.throwing.isEmpty then [line (head ++ " \x7b")]
  else [line head, indented ("throws " ++ String.intercalate ", " m.throwing ++ " \x7b")]

def MethodDecl.lines (m : MethodDecl) : List Line :=
  commentLines m.comment ++ m.markers.map line ++ m.headLines ++
    nested m.body.lines ++ [line "\x7d"]

namespace ClassDecl

def opening (c : ClassDecl) : String :=
  let abstractly := if c.isAbstract then "abstract " else ""
  let extending := match c.superclass with
    | none => ""
    | some s => " extends " ++ simpleName s
  let implementing :=
    if c.interfaces.isEmpty then ""
    else " implements " ++ String.intercalate ", " (c.interfaces.map simpleName)
  "public " ++ abstractly ++ "class " ++ c.localName ++ extending ++ implementing ++ " \x7b"

/-- The line that names the package, unless that is the default one. -/
def packageLines (c : ClassDecl) : List Line :=
  if c.package.isEmpty then [] else [line ("package " ++ c.package ++ ";"), line ""]

def importLines (c : ClassDecl) : List Line :=
  let names := Text.ascending c.imports
  if names.isEmpty then [] else names.map (fun n => line ("import " ++ n ++ ";")) ++ [line ""]

def memberLines (c : ClassDecl) : List Line :=
  let members := c.fields.map FieldDecl.lines ++
    c.constructors.map (ConstructorDecl.lines c.localName) ++ c.methods.map MethodDecl.lines
  members.flatMap fun ls => line "" :: ls

def unitLines (c : ClassDecl) : List Line :=
  c.packageLines ++ c.importLines ++ commentLines c.comment ++ [line c.opening] ++
    nested c.memberLines ++ [line "\x7d"]

def render (c : ClassDecl) : String :=
  (Block.ofLines c.unitLines).render 0

def sourcePath (c : ClassDecl) : String :=
  let directories := Text.runs (· == '.') c.package.toList
  let directory := directories.foldl (fun p d => Path.join p (String.ofList d)) ""
  Path.join directory (c.localName ++ ".java")

end ClassDecl

end BeanGen.Java
