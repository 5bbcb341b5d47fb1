import BeanGen.Java.ClassDecl

/-!
# Emissions

An accessor is a method together with the imports that its text relies on. Emitters give lists of
these, and only then are they added to a class, which leaves out a method whose signature is taken.
-/

namespace BeanGen

namespace Accessor

open Java

/-- A method and the classes to import for it. -/
structure Emission where
  imports : List String
  method : MethodDecl
  deriving DecidableEq, Repr, Inhabited

def Emission.ofMethod (m : MethodDecl) : Emission :=
  ⟨[], m⟩

end Accessor

namespace Java.ClassDecl

open Accessor

def emit (c : ClassDecl) (e : Emission) : ClassDecl :=
  (c.addImports e.imports).addMethod e.method

def emitAll (c : ClassDecl) (es : List Emission) : ClassDecl :=
  es.foldl emit c

end Java.ClassDecl

end BeanGen
