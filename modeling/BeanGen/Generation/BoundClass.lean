import BeanGen.Accessor.Collection
import BeanGen.Accessor.Scalar
import BeanGen.Schema.Validity

/-!
# Bound classes

The class of a bound type has the members and accessors of its fields, in declaration order, and a
constructor that sets up collections and defaults. It extends the parent of the type or, without
one, the global superclass.
-/

namespace BeanGen.Generation

open Accessor Java

def effectiveField (s : Settings) (f : BoundField) : BoundField :=
  { f with
    bound := f.bound || s.boundProperties
    extraMethods := f.extraMethods || s.extraCollectionMethods }

def effectiveFields (s : Settings) (t : BoundType) : List BoundField :=
  t.fields.map (effectiveField s)

def superclass? (s : Settings) (t : BoundType) : Option String :=
  match t.parent with
  | some parent => some parent
  | none => s.superClass

/-- The comment of a class: its notes, or else its name. -/
def classComment (t : BoundType) : String :=
  (visibleComment? t.notes).getD ("Class " ++ t.simpleName ++ ".")

def addProperty (s : Settings) (c : ClassDecl) (f : BoundField) : Except BindError ClassDecl :=
  let h := Holding.ofSettings s
  if f.isCollection then Collection.equipChecked h s.arrayMarkers f (Collection.declare h f c)
  else .ok (Scalar.equip f (Scalar.declare f c))

def initialLines (s : Settings) (f : BoundField) : List Line :=
  if f.isCollection then Collection.initialLines (.ofSettings s) f else Scalar.initialLines f

/-- The constructor: first that of the superclass, then the fields in order. -/
def initialConstructor (s : Settings) (fields : List BoundField) : ConstructorDecl :=
  { ConstructorDecl.plain with
    body := .ofLines (line "super();" :: fields.flatMap (initialLines s)) }

def emptyClass (s : Settings) (t : BoundType) : ClassDecl :=
  { (ClassDecl.ofName t.name).addImports (superclass? s t).toList with
    isAbstract := t.isAbstract
    superclass := (superclass? s t).map simpleName
    comment := some (classComment t) }

def buildClass (s : Settings) (t : BoundType) : Except BindError ClassDecl := do
  t.validate
  let fields := effectiveFields s t
  let c ← fields.foldlM (addProperty s) (emptyClass s t)
  return c.addConstructor (initialConstructor s fields)

end BeanGen.Generation
