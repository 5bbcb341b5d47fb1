import BeanGen.Java.Block

/-!
# Members of a class

Fields, methods and constructors with their modifiers. Two methods are overloads of one another when
they share a name; the signature, the name with the parameter types, tells them apart.
-/

namespace BeanGen.Java

inductive Visibility where
  | everyone
  | heirs
  | owner
  | neighbours
  deriving DecidableEq, Repr, Inhabited

/-- The keyword of a visibility; visibility within the package has none. -/
def Visibility.keyword : Visibility → String
  | .everyone => "public"
  | .heirs => "protected"
  | .owner => "private"
  | .neighbours => ""

structure Modifiers where
  visibility : Visibility
  isStatic : Bool
  isFinal : Bool
  isAbstract : Bool
  deriving DecidableEq, Repr, Inhabited

namespace Modifiers

def only (v : Visibility) : Modifiers :=
  ⟨v, false, false, false⟩

def keywords (m : Modifiers) : List String :=
  [m.visibility.keyword, if m.isAbstract then "abstract" else "",
    if m.isStatic then "static" else "", if m.isFinal then "final" else ""].filter (!·.isEmpty)

def leading (m : Modifiers) : String :=
  String.join (m.keywords.map (· ++ " "))

end Modifiers

structure FieldDecl where
  type : String
  name : String
  modifiers : Modifiers
  initializer : Option String
  comment : Option String
  deriving DecidableEq, Repr, Inhabited

def FieldDecl.plain (type name : String) : FieldDecl :=
  ⟨type, name, .only .owner, none, none⟩

def FieldDecl.documented (type name comment : String) : FieldDecl :=
  { FieldDecl.plain type name with comment := some comment }

/-- A parameter of a method or constructor. -/
structure Parameter where
  type : String
  name : String
  deriving DecidableEq, Repr, Inhabited

/-- A method; without a return type it is `void`. -/
structure MethodDecl where
  name : String
  returnType : Option String
  parameters : List Parameter
  modifiers : Modifiers
  throwing : List String
  markers : List String
  comment : Option String
  body : Block
  deriving DecidableEq, Repr, Inhabited

namespace MethodDecl

def plain (name : String) (returnType : Option String) (parameters : List Parameter)
    (comment : String) (lines : List Line) : MethodDecl :=
  ⟨name, returnType, parameters, .only .everyone, [], [], some comment, .ofLines lines⟩

def signature (m : MethodDecl) : String :=
  m.name ++ "(" ++ String.intercalate "," (m.parameters.map (·.type)) ++ ")"

end MethodDecl

structure ConstructorDecl where
  parameters : List Parameter
  modifiers : Modifiers
  comment : Option String
  body : Block
  deriving DecidableEq, Repr, Inhabited

def ConstructorDecl.plain : ConstructorDecl :=
  ⟨[], .only .everyone, none, .empty⟩

end BeanGen.Java
