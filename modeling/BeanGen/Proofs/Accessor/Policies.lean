import BeanGen.Proofs.Accessor.Clash
import BeanGen.Proofs.Java.ClassDecl
import BeanGen.Proofs.Text.Affix

/-!
# Accessors under each policy

The policies share one suite of accessors. It depends on the policy in the type of the member, which
three accessors copy or give out, and in the way of enumerating; without positions the four
accessors by position are missing. With the standard store no two of the accessors have one
signature, so a class takes up all of them.
-/

namespace BeanGen.Accessor

open Java Text

/-- The type of a value as accessors write it. -/
def writtenValue (modern : Bool) (f : BoundField) : String :=
  if modern then f.valueType.writtenBoxed else f.valueType.written

/-- The type of the member under a policy. -/
def memberType (p : CollectionPolicy) (modern : Bool) (f : BoundField) : String :=
  ((Holding.ofPolicy p modern).layout f).memberType

def positionSignatures (modern : Bool) (f : BoundField) : List String :=
  let value := writtenValue modern f
  [signatureText ("add" ++ f.suffix) ["int", value], signatureText ("get" ++ f.suffix) ["int"],
    signatureText ("remove" ++ f.suffix ++ "At") ["int"],
    signatureText ("set" ++ f.suffix) ["int", value]]

/-- The signatures of all accessors of a collection, with positions; the type of the member is that
of two parameters. -/
def suiteSignatures (modern : Bool) (f : BoundField) (member : String) : List String :=
  let value := writtenValue modern f
  [signatureText ("add" ++ f.suffix) [value], signatureText ("add" ++ f.suffix) ["int", value],
    signatureText ("enumerate" ++ f.suffix) []] ++
  (if modern then [signatureText ("iterate" ++ f.suffix) []] else []) ++
  [signatureText ("get" ++ f.suffix) ["int"], signatureText ("get" ++ f.suffix) [],
    signatureText ("get" ++ f.suffix ++ "Count") [], signatureText ("removeAll" ++ f.suffix) [],
    signatureText ("remove" ++ f.suffix) [value],
    signatureText ("remove" ++ f.suffix ++ "At") ["int"],
    signatureText ("set" ++ f.suffix) ["int", value],
    signatureText ("set" ++ f.suffix) [value ++ "[]"]] ++
  if f.extraMethods then
    [signatureText ("get" ++ f.suffix ++ "AsReference") [],
      signatureText ("set" ++ f.suffix) [member],
      signatureText ("set" ++ f.suffix ++ "AsReference") [member]]
  else []

/-- The class with the accessors of a field under a policy, with the standard store. -/
def equippedUnder (p : CollectionPolicy) (modern : Bool) (markers : List String) (f : BoundField)
    (c : ClassDecl) : ClassDecl :=
  Collection.equip (.ofPolicy p modern) markers f c

def signatures (c : ClassDecl) : List String :=
  c.methods.map (·.signature)

/-- The method takes a value of the type or gives one. -/
def MentionsType (type : String) (m : MethodDecl) : Prop :=
  type ∈ m.parameters.map (·.type) ∨ m.returnType = some type

namespace Form

section Policy

variable {p q : CollectionPolicy} {modern : Bool} {markers : List String} {f : BoundField}
  {a b : Form}

/-! ## The type of the member -/

theorem not_endsWith_memberType : ¬ EndsWith "[]" (memberType p modern f) := by
  have hClass : ¬ EndsWith "[]" (simpleName (Holding.ofPolicy p modern).memberClass) := by
    cases p <;> cases modern <;> decide
  rw [memberType, Holding.layout, Holding.ofElements]
  split
  · exact not_endsWith_append _ (by decide)
  · exact hClass

theorem not_startsWith_memberType : ¬ StartsWith "int," (memberType p modern f) := by
  have hClass : PartAtStart "int," (simpleName (Holding.ofPolicy p modern).memberClass) := by
    cases p <;> cases modern <;> decide
  rw [memberType, Holding.layout, Holding.ofElements]
  split
  · exact (((hClass.append _).append _).append _).left
  · exact hClass.left

/-- No class of the library is written like an array or a list of types. -/
theorem copyApart_ofPolicy : CopyApart (.ofPolicy p modern) f a b where
  array _ hEq := by
    have hArray : memberType p modern f = writtenValue modern f ++ "[]" := hEq
    exact not_endsWith_memberType (hArray ▸ endsWith_append_self _ _)
  pair _ _ hEq := by
    have hPair : memberType p modern f = "int," ++ writtenValue modern f := hEq
    exact not_startsWith_memberType (hPair ▸ startsWith_self_append _ _)

theorem eq_of_signature_eq_ofPolicy (hKind : a.isScalar = b.isScalar)
    (hEq : a.signature (.ofPolicy p modern) f = b.signature (.ofPolicy p modern) f) : a = b :=
  eq_of_copyApart hKind copyApart_ofPolicy hEq

/-! ## The suite as forms -/

def byPosition : List Form :=
  [addAt, getAt, removeAt, setAt]

/-- The forms that depend on how the values are held: the enumeration and what concerns the
collection itself. -/
def byHolding : List Form :=
  [enumerate, getReference, setCopy, setReference]

theorem isIndexed_legacyIndexed (modern : Bool) :
    (Holding.ofPolicy .legacyIndexed modern).isIndexed = true :=
  rfl

theorem isScalar_of_mem_ofField (hMany : f.isCollection = true)
    (hA : a ∈ ofField (.ofPolicy p modern) f) : a.isScalar = false := by
  rw [isScalar_of_isCalledFor (mem_ofField.mp hA), hMany]
  rfl

theorem ofField_ofPolicy (hIndexed : p ≠ .noIndex) :
    ofField (.ofPolicy p modern) f = ofField (.ofPolicy .legacyIndexed modern) f := by
  cases p with
  | noIndex => exact absurd rfl hIndexed
  | _ => rfl

theorem ofField_noIndex :
    ofField (.ofPolicy .noIndex modern) f =
      (ofField (.ofPolicy .legacyIndexed modern) f).filter (· ∉ byPosition) := by
  rw [ofField, ofField, List.filter_filter]
  refine List.filter_congr fun a _ => ?_
  cases a <;> simp [isCalledFor, byPosition, Holding.isIndexed, Holding.ofPolicy]

theorem map_signature_byPosition :
    byPosition.map (signature (.ofPolicy p modern) f) = positionSignatures modern f := by
  simp only [byPosition, positionSignatures, List.map, signature, name, verb, ending, Verb.text,
    Ending.text, String.append_empty, String.append_assoc]
  rfl

theorem map_signature_ofField (hMany : f.isCollection = true) :
    (ofField (.ofPolicy .legacyIndexed modern) f).map (signature (.ofPolicy p modern) f) =
      suiteSignatures modern f (memberType p modern f) := by
  have hArray : ((Holding.ofPolicy p modern).layout f).arrayType = writtenValue modern f ++ "[]" :=
    rfl
  have hValue : (Holding.ofPolicy p modern).valueType f = writtenValue modern f := rfl
  have hIndexed := isIndexed_legacyIndexed modern
  have hModern : (Holding.ofPolicy .legacyIndexed modern).modern = modern := rfl
  cases modern <;> cases hExtra : f.extraMethods <;>
    simp [suiteSignatures, ofField, all, isCalledFor, signature, name, verb, ending, types,
      memberType, Verb.text, Ending.text, String.append_assoc, hMany, hExtra, hArray, hValue,
      hIndexed, hModern]

/-- Without positions exactly the accessors by position are missing, also by their signatures. -/
theorem map_signature_ofField_noIndex (hMany : f.isCollection = true) :
    (ofField (.ofPolicy .noIndex modern) f).map (signature (.ofPolicy .noIndex modern) f) =
      (suiteSignatures modern f (memberType .noIndex modern f)).filter
        (· ∉ positionSignatures modern f) := by
  rw [ofField_noIndex, ← map_signature_ofField hMany, List.filter_map]
  refine congrArg _ (List.filter_congr fun a hA => decide_eq_decide.mpr (not_congr ?_))
  rw [← map_signature_byPosition (p := .noIndex), List.mem_map]
  constructor
  · intro hPosition
    exact ⟨a, hPosition, rfl⟩
  · rintro ⟨b, hPosition, hEq⟩
    have hMulti : ∀ b ∈ byPosition, b.isScalar = false := by decide
    have hKind : b.isScalar = a.isScalar := by
      rw [hMulti b hPosition, isScalar_of_mem_ofField hMany hA]
    exact eq_of_signature_eq_ofPolicy hKind hEq ▸ hPosition

theorem positionSignatures_subset (hMany : f.isCollection = true) :
    positionSignatures modern f ⊆ suiteSignatures modern f (memberType p modern f) := by
  rw [← map_signature_byPosition (p := p), ← map_signature_ofField hMany]
  refine List.map_subset _ fun a hPosition => mem_ofField.mpr ?_
  have hIndexed := isIndexed_legacyIndexed modern
  simp only [byPosition, List.mem_cons, List.not_mem_nil, or_false] at hPosition
  rcases hPosition with rfl | rfl | rfl | rfl <;> simp [isCalledFor, hMany, hIndexed]

theorem nodup_signature_ofField (hMany : f.isCollection = true) :
    ((ofField (.ofPolicy q modern) f).map (signature (.ofPolicy p modern) f)).Nodup := by
  refine (nodup_ofField _ _).map_on fun a hA b hB hEq => ?_
  refine eq_of_signature_eq_ofPolicy ?_ hEq
  rw [isScalar_of_mem_ofField hMany hA, isScalar_of_mem_ofField hMany hB]

/-! ## The text of an accessor -/

/-- In legacy mode the policy shows in the enumeration and in what concerns the collection itself,
and nowhere else. -/
theorem method_ofPolicy (hHolding : a ∉ byHolding) :
    a.method (.ofPolicy p false) markers f = a.method (.ofPolicy q false) markers f := by
  cases a with
  | enumerate | getReference | setCopy | setReference => exact absurd (by decide) hHolding
  | _ => cases p <;> cases q <;> rfl

theorem not_mem_byHolding
    (hName : (a.method (.ofPolicy p modern) markers f).name ≠ "enumerate" ++ f.suffix)
    (hType : ¬ MentionsType (memberType p modern f) (a.method (.ofPolicy p modern) markers f)) :
    a ∉ byHolding := by
  intro hHolding
  simp only [byHolding, List.mem_cons, List.not_mem_nil, or_false] at hHolding
  rcases hHolding with rfl | rfl | rfl | rfl
  · exact hName rfl
  · exact hType (.inr rfl)
  · exact hType (.inl List.mem_cons_self)
  · exact hType (.inl List.mem_cons_self)

end Policy

end Form

section Class

variable {p q : CollectionPolicy} {modern : Bool} {markers : List String} {f : BoundField}
  {c : ClassDecl}

/-- A class without methods takes up the whole suite. -/
theorem methods_equippedUnder (hMany : f.isCollection = true) (hUnbound : f.bound = false)
    (hNew : c.methods = []) :
    (equippedUnder p modern markers f c).methods =
      (Collection.suite (.ofPolicy p modern) markers f).map (·.method) := by
  have hNodup : (((Collection.suite (.ofPolicy p modern) markers f).map (·.method)).map
      (·.signature)).Nodup := by
    rw [Form.map_collectionSuite _ markers hMany, List.map_map]
    simpa only [Function.comp_def, Form.signature_method] using Form.nodup_signature_ofField hMany
  rw [equippedUnder, Collection.equip, ChangeNotice.installIfBound, hUnbound,
    if_neg Bool.false_ne_true, ClassDecl.methods_emitAll, hNew]
  have hNone : (([] : List MethodDecl).map (·.signature)).Nodup := List.nodup_nil
  exact (foldl_adopt_eq_append_iff hNone).mpr hNodup

theorem signatures_equippedUnder (hMany : f.isCollection = true) (hUnbound : f.bound = false)
    (hNew : c.methods = []) :
    signatures (equippedUnder p modern markers f c) =
      (Form.ofField (.ofPolicy p modern) f).map (Form.signature (.ofPolicy p modern) f) := by
  rw [signatures, methods_equippedUnder hMany hUnbound hNew,
    Form.map_collectionSuite _ markers hMany, List.map_map]
  simp only [Function.comp_def, Form.signature_method]

theorem mem_methods_equippedUnder (hMany : f.isCollection = true) (hUnbound : f.bound = false)
    (hNew : c.methods = []) {m : MethodDecl}
    (hMem : m ∈ (equippedUnder p modern markers f c).methods) :
    ∃ a : Form, a.isScalar = false ∧ a.method (.ofPolicy p modern) markers f = m := by
  rw [methods_equippedUnder hMany hUnbound hNew, Form.map_collectionSuite _ markers hMany] at hMem
  obtain ⟨a, hA, hMethod⟩ := List.mem_map.mp hMem
  exact ⟨a, Form.isScalar_of_mem_ofField hMany hA, hMethod⟩

theorem eq_of_mem_methods_equippedUnder (hMany : f.isCollection = true) (hUnbound : f.bound = false)
    (hNew : c.methods = []) {m n : MethodDecl}
    (hM : m ∈ (equippedUnder p false markers f c).methods)
    (hN : n ∈ (equippedUnder q false markers f c).methods) (hEq : m.signature = n.signature)
    (hName : m.name ≠ "enumerate" ++ f.suffix)
    (hType : ¬ MentionsType (memberType p false f) m) : m = n := by
  obtain ⟨a, hA, rfl⟩ := mem_methods_equippedUnder hMany hUnbound hNew hM
  obtain ⟨b, hB, rfl⟩ := mem_methods_equippedUnder hMany hUnbound hNew hN
  have hSame : a.method (.ofPolicy p false) markers f = a.method (.ofPolicy q false) markers f :=
    Form.method_ofPolicy (Form.not_mem_byHolding hName hType)
  rw [hSame, Form.signature_method, Form.signature_method] at hEq
  rw [hSame, Form.eq_of_signature_eq_ofPolicy (hA.trans hB.symm) hEq]

end Class

/-- With a new class nothing of the suite is dropped, and the policies differ as they should: by the
type of the member in two signatures, by the four accessors by position, and in legacy mode by the
text of the enumeration and of the methods for the collection itself. -/
theorem suite_under_policies {f : BoundField} {c : ClassDecl} (hMany : f.isCollection = true)
    (hUnbound : f.bound = false) (hNew : c.methods = []) (modern : Bool) (markers : List String) :
    (∀ p, Collection.equipChecked (.ofPolicy p modern) markers f c =
          .ok (equippedUnder p modern markers f c) ∧
        (equippedUnder p modern markers f c).methods =
          (Collection.suite (.ofPolicy p modern) markers f).map (·.method)) ∧
      (∀ p, p ≠ .noIndex → signatures (equippedUnder p modern markers f c) =
        suiteSignatures modern f (memberType p modern f)) ∧
      (signatures (equippedUnder .noIndex modern markers f c) =
          (suiteSignatures modern f (memberType .noIndex modern f)).filter
            (· ∉ positionSignatures modern f) ∧
        (suiteSignatures modern f (memberType .noIndex modern f)).Nodup ∧
        positionSignatures modern f ⊆ suiteSignatures modern f (memberType .noIndex modern f)) ∧
      (modern = false → ∀ p q, ∀ m ∈ (equippedUnder p modern markers f c).methods,
        ∀ n ∈ (equippedUnder q modern markers f c).methods, m.signature = n.signature →
          m.name ≠ "enumerate" ++ f.suffix → ¬ MentionsType (memberType p modern f) m → m = n) := by
  refine ⟨fun p => ⟨if_pos hMany, methods_equippedUnder hMany hUnbound hNew⟩, fun p hIndexed => ?_,
    ⟨?_, ?_, Form.positionSignatures_subset hMany⟩, ?_⟩
  · rw [signatures_equippedUnder hMany hUnbound hNew, Form.ofField_ofPolicy hIndexed,
      Form.map_signature_ofField hMany]
  · rw [signatures_equippedUnder hMany hUnbound hNew, Form.map_signature_ofField_noIndex hMany]
  · rw [← Form.map_signature_ofField hMany]
    exact Form.nodup_signature_ofField hMany
  · rintro rfl p q m hM n hN hEq hName hType
    exact eq_of_mem_methods_equippedUnder hMany hUnbound hNew hM hN hEq hName hType

/-- A list of items with access to the list itself. -/
def itemsField : BoundField :=
  { BoundField.collection "_items" (.bound "shop.Item") "Item" 3 with extraMethods := true }

theorem suite_under_policies_itemsField :
    signatures (equippedUnder .modernIndexed false [] itemsField (.ofName "shop.Order")) =
        ["addItem(Item)", "addItem(int,Item)", "enumerateItem()", "getItem(int)", "getItem()",
          "getItemCount()", "removeAllItem()", "removeItem(Item)", "removeItemAt(int)",
          "setItem(int,Item)", "setItem(Item[])", "getItemAsReference()", "setItem(List)",
          "setItemAsReference(List)"] ∧
      signatures (equippedUnder .noIndex false [] itemsField (.ofName "shop.Order")) =
        ["addItem(Item)", "enumerateItem()", "getItem()", "getItemCount()", "removeAllItem()",
          "removeItem(Item)", "setItem(Item[])", "getItemAsReference()", "setItem(Set)",
          "setItemAsReference(Set)"] := by
  have hMany : itemsField.isCollection = true := by decide
  have hUnbound : itemsField.bound = false := by decide
  have hNew : (ClassDecl.ofName "shop.Order").methods = [] := by decide
  obtain ⟨-, hIndexed, ⟨hNoIndex, -⟩, -⟩ := suite_under_policies hMany hUnbound hNew false []
  rw [hIndexed .modernIndexed (by decide), hNoIndex]
  decide

end BeanGen.Accessor
