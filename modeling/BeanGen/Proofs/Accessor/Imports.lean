import BeanGen.Accessor.Collection
import BeanGen.Accessor.Scalar
import BeanGen.Proofs.Java.Imports

/-!
# What accessors ask a class to import

The accessors of a collection ask for its layout over and over, and for the classes to go through it.
Those of a single value ask for nothing: its class is asked for with the member.
-/

namespace BeanGen.Accessor

open Java ClassDecl

/-- The classes that a collection asks for; every one has an iterator or an array that is filled by
one. -/
def collectionNames (h : Holding) (f : BoundField) : List String :=
  (h.layout f).imports ++ ["java.util.Enumeration", "java.util.Iterator"] ++
    Collection.enumerationImports h.policy

def listenerNames : List String :=
  [ChangeNotice.supportClass, ChangeNotice.listenerClass]

theorem mem_suiteImports (h : Holding) (markers : List String) (f : BoundField) (q : String) :
    q ∈ (Collection.suite h markers f).flatMap (·.imports) ∨ q ∈ (h.layout f).imports ↔
      q ∈ collectionNames h f := by
  have hTyped : (h.layout f).isTyped = true → h.modern = true := by
    intro hTyped
    have hBoth : (h.modern && h.policy != .externalStoreBacked) = true := hTyped
    exact (Bool.and_eq_true_iff.mp hBoth).1
  cases hModern : h.modern <;> cases hLayout : (h.layout f).isTyped <;>
    cases hIndexed : h.isIndexed <;> cases hExtra : f.extraMethods <;>
    simp [collectionNames, Collection.suite, Collection.commonSuite, Collection.iteration,
      Collection.extraSuite, Collection.ifIndexed, Collection.add, Collection.addAt,
      Collection.enumerate, Collection.iterate, Collection.getAt, Collection.getArray,
      Collection.getCount, Collection.removeAll, Collection.remove, Collection.removeAt,
      Collection.setAt, Collection.setArray, Collection.getReference, Collection.setCopy,
      Collection.setReference, Emission.ofMethod, hModern, hLayout, hIndexed, hExtra] at hTyped ⊢ <;>
    tauto

section Class

variable {c : ClassDecl} {names : List String}

theorem asked_installIfBound (h : c.Asked names) (f : BoundField) :
    (ChangeNotice.installIfBound f c).Asked (names ++
      if f.bound && !(c.field? ChangeNotice.supportField).isSome then listenerNames else []) := by
  rw [ChangeNotice.installIfBound, ChangeNotice.install]
  cases f.bound with
  | false => simpa using h
  | true =>
    cases hTaken : c.field? ChangeNotice.supportField with
    | some d => simpa using h
    | none => exact ((h.addImports listenerNames).addField ChangeNotice.member).addMethods _

theorem asked_collection (hAsked : c.Asked names) (h : Holding) (markers : List String)
    (f : BoundField) :
    ((Collection.declare h f c).emitAll (Collection.suite h markers f)).Asked
      (names ++ collectionNames h f) := by
  have hDeclared := (hAsked.addImports (h.layout f).imports).addField (Collection.member h f)
  refine (hDeclared.emitAll (Collection.suite h markers f)).congr ?_
  intro q
  simp only [List.append_assoc, List.mem_append]
  rw [or_comm (a := q ∈ (h.layout f).imports), mem_suiteImports]

theorem flatMap_imports_scalarSuite (f : BoundField) :
    (Scalar.suite f).flatMap (·.imports) = [] := by
  by_cases hContent : f.content = .boolean <;> cases hPrimitive : f.valueType.isPrimitive <;>
    simp [Scalar.suite, Scalar.getter, Scalar.setter, Scalar.predicate, Scalar.hasValue,
      Scalar.deletion, Emission.ofMethod, hContent, hPrimitive]

theorem asked_scalar (h : c.Asked names) (f : BoundField) :
    ((Scalar.declare f c).emitAll (Scalar.suite f)).Asked (names ++ f.valueType.imports) := by
  have hDeclared := (h.addImports f.valueType.imports).addFields (Scalar.members f)
  have hSuite := hDeclared.emitAll (Scalar.suite f)
  rwa [flatMap_imports_scalarSuite, List.append_nil] at hSuite

end Class

end BeanGen.Accessor
