import BeanGen.Java.ValueType
import BeanGen.Settings.Basic

/-!
# How collections are held

The policy gives the type of the member that holds a collection and the expression of an empty one.
Where the member can be typed, its elements are written boxed and need no cast; elsewhere every
element is converted by hand.
-/

namespace BeanGen.Accessor

open Java

/-- How the collections of a class are held. -/
structure Holding where
  policy : CollectionPolicy
  modern : Bool
  storeType : String
  storeFactory : String
  deriving DecidableEq, Repr, Inhabited

/-- The types and names of one collection. -/
structure Layout where
  element : ValueType
  isTyped : Bool
  valueType : String
  memberType : String
  emptyValue : String
  member : String
  imports : List String
  deriving DecidableEq, Repr, Inhabited

namespace Layout

def toElement (l : Layout) (expr : String) : String :=
  if l.isTyped then expr else l.element.toObject expr

def fromElement (l : Layout) (expr : String) : String :=
  if l.isTyped then expr else l.element.fromObject expr

def arrayType (l : Layout) : String :=
  l.valueType ++ "[]"

end Layout

namespace Holding

def ofPolicy (policy : CollectionPolicy) (modern : Bool) : Holding where
  policy := policy
  modern := modern
  storeType := RuntimeClasses.standard.externalStoreType
  storeFactory := RuntimeClasses.standard.externalStoreFactory

def ofSettings (s : Settings) : Holding where
  policy := s.collectionPolicy
  modern := s.modernMode
  storeType := s.runtime.externalStoreType
  storeFactory := s.runtime.externalStoreFactory

def isIndexed (h : Holding) : Bool :=
  h.policy != .noIndex

def isTyped (h : Holding) : Bool :=
  h.modern && h.policy != .externalStoreBacked

def memberClass (h : Holding) : String :=
  match h.policy with
  | .legacyIndexed => "java.util.Vector"
  | .modernIndexed => "java.util.List"
  | .noIndex => "java.util.Set"
  | .externalStoreBacked => h.storeType

/-- The class of an empty collection; an external store makes its own. -/
def createdClass? (h : Holding) : Option String :=
  match h.policy with
  | .legacyIndexed => some "java.util.Vector"
  | .modernIndexed => some "java.util.ArrayList"
  | .noIndex => some "java.util.HashSet"
  | .externalStoreBacked => none

def valueType (h : Holding) (f : BoundField) : String :=
  if h.modern then f.valueType.writtenBoxed else f.valueType.written

/-- A class by its simple name, with the type of the elements if that is written. -/
def ofElements (h : Holding) (f : BoundField) (className : String) : String :=
  if h.isTyped then simpleName className ++ "<" ++ h.valueType f ++ ">" else simpleName className

def emptyValue (h : Holding) (f : BoundField) : String :=
  match h.createdClass? with
  | some className => "new " ++ h.ofElements f className ++ "()"
  | none => h.storeFactory

def layout (h : Holding) (f : BoundField) : Layout where
  element := f.valueType
  isTyped := h.isTyped
  valueType := h.valueType f
  memberType := h.ofElements f h.memberClass
  emptyValue := h.emptyValue f
  member := "this." ++ f.name
  imports := h.memberClass :: f.valueType.imports ++ h.createdClass?.toList

end Holding

end BeanGen.Accessor
