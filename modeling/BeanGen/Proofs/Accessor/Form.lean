import BeanGen.Accessor.Collection
import BeanGen.Accessor.Scalar
import BeanGen.Proofs.Java.Signature

/-!
# Forms of accessors

An accessor is one of twenty forms applied to a field. Its name is a verb, the suffix of the field
and an ending; whether a field has it depends on the multiplicity and kind of the field and on how
collections are held.
-/

namespace BeanGen.Accessor

open Java

inductive Form where
  | getter
  | setter
  | predicate
  | hasValue
  | deletion
  | add
  | addAt
  | enumerate
  | iterate
  | getAt
  | getArray
  | getCount
  | removeAll
  | remove
  | removeAt
  | setAt
  | setArray
  | getReference
  | setCopy
  | setReference
  deriving DecidableEq, Repr, Inhabited

inductive Verb where
  | get
  | set
  | is
  | has
  | delete
  | add
  | enumerate
  | iterate
  | remove
  | removeAll
  deriving DecidableEq, Repr, Inhabited

def Verb.text : Verb → String
  | .get => "get"
  | .set => "set"
  | .is => "is"
  | .has => "has"
  | .delete => "delete"
  | .add => "add"
  | .enumerate => "enumerate"
  | .iterate => "iterate"
  | .remove => "remove"
  | .removeAll => "removeAll"

inductive Ending where
  | none
  | count
  | position
  | reference
  deriving DecidableEq, Repr, Inhabited

def Ending.text : Ending → String
  | .none => ""
  | .count => "Count"
  | .position => "At"
  | .reference => "AsReference"

namespace Form

def all : List Form := [
  getter, setter, predicate, hasValue, deletion, add, addAt, enumerate, iterate, getAt, getArray,
  getCount, removeAll, remove, removeAt, setAt, setArray, getReference, setCopy, setReference]

def verb : Form → Verb
  | getter => .get
  | setter => .set
  | predicate => .is
  | hasValue => .has
  | deletion => .delete
  | add => .add
  | addAt => .add
  | enumerate => .enumerate
  | iterate => .iterate
  | getAt => .get
  | getArray => .get
  | getCount => .get
  | removeAll => .removeAll
  | remove => .remove
  | removeAt => .remove
  | setAt => .set
  | setArray => .set
  | getReference => .get
  | setCopy => .set
  | setReference => .set

def ending : Form → Ending
  | getCount => .count
  | removeAt => .position
  | getReference => .reference
  | setReference => .reference
  | _ => .none

def name (f : BoundField) (a : Form) : String :=
  a.verb.text ++ (f.suffix ++ a.ending.text)

def types (h : Holding) (f : BoundField) : Form → List String
  | setter => [f.valueType.written]
  | add => [h.valueType f]
  | addAt => ["int", h.valueType f]
  | getAt => ["int"]
  | remove => [h.valueType f]
  | removeAt => ["int"]
  | setAt => ["int", h.valueType f]
  | setArray => [(h.layout f).arrayType]
  | setCopy => [(h.layout f).memberType]
  | setReference => [(h.layout f).memberType]
  | _ => []

def signature (h : Holding) (f : BoundField) (a : Form) : String :=
  signatureText (a.name f) (a.types h f)

def isCalledFor (h : Holding) (f : BoundField) : Form → Bool
  | getter => !f.isCollection
  | setter => !f.isCollection
  | predicate => !f.isCollection && f.content == .boolean
  | hasValue => !f.isCollection && f.valueType.isPrimitive
  | deletion => !f.isCollection && f.valueType.isPrimitive
  | addAt => f.isCollection && h.isIndexed
  | getAt => f.isCollection && h.isIndexed
  | removeAt => f.isCollection && h.isIndexed
  | setAt => f.isCollection && h.isIndexed
  | iterate => f.isCollection && h.modern
  | getReference => f.isCollection && f.extraMethods
  | setCopy => f.isCollection && f.extraMethods
  | setReference => f.isCollection && f.extraMethods
  | _ => f.isCollection

def method (h : Holding) (markers : List String) (f : BoundField) : Form → MethodDecl
  | getter => (Scalar.getter f).method
  | setter => (Scalar.setter f).method
  | predicate => (Scalar.predicate f).method
  | hasValue => (Scalar.hasValue f).method
  | deletion => (Scalar.deletion f).method
  | add => (Collection.add h f).method
  | addAt => (Collection.addAt h f).method
  | enumerate => (Collection.enumerate h f).method
  | iterate => (Collection.iterate h f).method
  | getAt => (Collection.getAt h f).method
  | getArray => (Collection.getArray h markers f).method
  | getCount => (Collection.getCount f).method
  | removeAll => (Collection.removeAll f).method
  | remove => (Collection.remove h f).method
  | removeAt => (Collection.removeAt h f).method
  | setAt => (Collection.setAt h f).method
  | setArray => (Collection.setArray h f).method
  | getReference => (Collection.getReference h f).method
  | setCopy => (Collection.setCopy h f).method
  | setReference => (Collection.setReference h f).method

def ofField (h : Holding) (f : BoundField) : List Form :=
  all.filter (isCalledFor h f)

theorem mem_ofField {h : Holding} {f : BoundField} {a : Form} :
    a ∈ ofField h f ↔ a.isCalledFor h f = true := by
  rw [ofField, List.mem_filter, and_iff_right]
  cases a <;> decide

theorem nodup_ofField (h : Holding) (f : BoundField) : (ofField h f).Nodup := by
  have hAll : all.Nodup := by decide
  exact hAll.filter _

section Method

variable (h : Holding) (markers : List String) (f : BoundField) (a : Form)

theorem name_method : (a.method h markers f).name = a.name f := by
  cases a <;> simp [method, name, verb, ending, Verb.text, Ending.text] <;> rfl

theorem types_method : (a.method h markers f).parameters.map (·.type) = a.types h f := by
  cases a <;> rfl

theorem signature_method : (a.method h markers f).signature = a.signature h f := by
  rw [MethodDecl.signature_eq, name_method, types_method, signature]

end Method

theorem map_scalarSuite {f : BoundField} (h : Holding) (markers : List String)
    (hSingle : f.isCollection = false) :
    (Scalar.suite f).map (·.method) = (ofField h f).map (method h markers f) := by
  by_cases hContent : f.content = .boolean <;> cases hPrimitive : f.valueType.isPrimitive <;>
    simp [Scalar.suite, ofField, all, isCalledFor, method, hSingle, hContent, hPrimitive]

theorem map_collectionSuite {f : BoundField} (h : Holding) (markers : List String)
    (hMany : f.isCollection = true) :
    (Collection.suite h markers f).map (·.method) = (ofField h f).map (method h markers f) := by
  cases hIndexed : h.isIndexed <;> cases hModern : h.modern <;> cases hExtra : f.extraMethods <;>
    simp [Collection.suite, Collection.commonSuite, Collection.iteration, Collection.ifIndexed,
      Collection.extraSuite, ofField, all, isCalledFor, method, hMany, hIndexed, hModern, hExtra]

end Form

end BeanGen.Accessor
