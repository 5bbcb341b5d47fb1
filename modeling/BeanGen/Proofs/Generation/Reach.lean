import BeanGen.Proofs.Descriptor.Confinement
import BeanGen.Proofs.Generation.History
import BeanGen.Proofs.Generation.Separate

/-!
# Descriptors and the class they describe

A method is left out of a class only if its signature is there already. So the class has the
signatures that its descriptors rely on, even where it has lost the methods that were meant. A
signature is one text, and that of another method may be the same. The class has a method that is
called under the very name, and with the very parameter types, unless it is displaced by such a one.
-/

namespace BeanGen.Generation

open Accessor Conflict Descriptor Java Text

def HasSignature (c : ClassDecl) (name : String) (types : List String) : Prop :=
  ∃ m ∈ c.methods, m.signature = signatureText name types

/-- The class has a method of this name with just these parameter types. -/
def HasMethod (c : ClassDecl) (name : String) (types : List String) : Prop :=
  ∃ m ∈ c.methods, m.name = name ∧ m.parameters.map (·.type) = types

def elementType (s : Settings) (f : BoundField) : String :=
  if s.modernMode then f.valueType.writtenBoxed else f.valueType.written

/-- What the descriptors call for a field, with the types of what they pass, is there. -/
structure Answers (s : Settings) (has : String → List String → Prop) (f : BoundField) : Prop where
  reads : has ("get" ++ f.suffix) []
  writes : f.isCollection = false → (handed s f).type? = some f.valueType.written ∧
    has ("set" ++ f.suffix) [f.valueType.written]
  adds : f.isCollection = true → (handed s f).type? = some (elementType s f) ∧
    has ("add" ++ f.suffix) [elementType s f]
  clears : f.isCollection = true → has ("removeAll" ++ f.suffix) []
  looksUp : f.isMapped = true →
    has ("get" ++ f.suffix) [] ∧ has ("set" ++ f.suffix) [f.valueType.written]

theorem isCollection_of_isMapped {f : BoundField} (hMapped : f.isMapped = true) :
    f.isCollection = false := by
  cases hMultiplicity : f.multiplicity with
  | single => rw [BoundField.isCollection, hMultiplicity]
  | many max =>
    rw [BoundField.isMapped, hMultiplicity] at hMapped
    cases hMapped

def calledForms : List Form :=
  [.getter, .setter, .add, .getArray, .removeAll]

section Forms

variable {s : Settings} {has : String → List String → Prop} {f : BoundField} {a : Form}

theorem name_of_called (hCalled : a ∈ calledForms) : a.name f = a.verb.text ++ f.suffix := by
  have hPlain : ∀ b ∈ calledForms, b.ending = .none := by decide
  rw [Form.name, hPlain a hCalled, Ending.text, String.append_empty]

theorem answers_of_forms (h : ∀ a ∈ calledForms, a.isCalledFor (.ofSettings s) f = true →
    has (a.name f) (a.types (.ofSettings s) f)) : Answers s has f := by
  have hForm {a : Form} (hCalled : a ∈ calledForms)
      (hA : a.isCalledFor (.ofSettings s) f = true) :
      has (a.verb.text ++ f.suffix) (a.types (.ofSettings s) f) :=
    name_of_called hCalled ▸ h a hCalled hA
  have hReads : has ("get" ++ f.suffix) [] := by
    cases hMany : f.isCollection with
    | false => exact hForm (by decide : .getter ∈ calledForms) (by simp [Form.isCalledFor, hMany])
    | true => exact hForm (by decide : .getArray ∈ calledForms) hMany
  have hWrites (hSingle : f.isCollection = false) :
      has ("set" ++ f.suffix) [f.valueType.written] :=
    hForm (by decide : .setter ∈ calledForms) (by simp [Form.isCalledFor, hSingle])
  constructor
  · exact hReads
  · intro hSingle
    exact ⟨type?_handed_single hSingle, hWrites hSingle⟩
  · intro hMany
    exact ⟨type?_handed_many hMany, hForm (by decide : .add ∈ calledForms) hMany⟩
  · intro hMany
    exact hForm (by decide : .removeAll ∈ calledForms) hMany
  · intro hMapped
    exact ⟨hReads, hWrites (isCollection_of_isMapped hMapped)⟩

theorem Answers.form (h : Answers s has f) (hCalled : a ∈ calledForms)
    (hA : a.isCalledFor (.ofSettings s) f = true) :
    has (a.name f) (a.types (.ofSettings s) f) := by
  rw [name_of_called hCalled]
  simp only [calledForms, List.mem_cons, List.not_mem_nil, or_false] at hCalled
  rcases hCalled with rfl | rfl | rfl | rfl | rfl
  · exact h.reads
  · have hSingle : f.isCollection = false := by simpa [Form.isCalledFor] using hA
    exact (h.writes hSingle).2
  · exact (h.adds hA).2
  · exact h.reads
  · exact h.clears hA

theorem answers_iff : Answers s has f ↔ ∀ a ∈ calledForms,
    a.isCalledFor (.ofSettings s) f = true → has (a.name f) (a.types (.ofSettings s) f) :=
  ⟨fun h _ hCalled hA => h.form hCalled hA, answers_of_forms⟩

end Forms

/-! ## Signatures -/

theorem isCalledFor_effectiveField {s : Settings} {h : Holding} {f : BoundField} {a : Form}
    (hA : a.isCalledFor h f = true) : a.isCalledFor h (effectiveField s f) = true := by
  cases a with
  | getReference | setCopy | setReference =>
    obtain ⟨hMany, hExtra⟩ := by simpa [Form.isCalledFor] using hA
    simp [Form.isCalledFor, hMany, hExtra]
  | _ => exact hA

theorem types_effectiveField (s : Settings) (h : Holding) (f : BoundField) (a : Form) :
    a.types h (effectiveField s f) = a.types h f := by
  cases a <;> rfl

theorem method_mem_offered {s : Settings} {t : BoundType} {f : BoundField} {a : Form}
    (hField : f ∈ t.fields) (hA : a.isCalledFor (.ofSettings s) f = true) :
    a.method (.ofSettings s) s.arrayMarkers (effectiveField s f) ∈ offered s t := by
  refine (offered_perm s t).mem_iff.mpr (List.mem_append_left _ (List.mem_flatMap.mpr ?_))
  refine ⟨effectiveField s f, List.mem_map_of_mem hField, mem_accessors.mpr ⟨a, ?_, rfl⟩⟩
  exact isCalledFor_effectiveField hA

/-- The signature of every accessor is in the class, if not by the accessor itself. -/
theorem hasSignature_boundClass {s : Settings} {t : BoundType} {f : BoundField} {a : Form}
    (hField : f ∈ t.fields) (hA : a.isCalledFor (.ofSettings s) f = true) :
    HasSignature (boundClass s t) (a.name f) (a.types (.ofSettings s) f) := by
  obtain ⟨m, hMem, hEq⟩ := exists_signature_of_offered (method_mem_offered hField hA)
  refine ⟨m, ?_, ?_⟩
  · rw [methods_boundClass, ClassDecl.methods_addMethods]
    exact hMem
  · rw [hEq, Form.signature_method, Form.signature, types_effectiveField]
    rfl

/-! ## Methods that are displaced -/

theorem mem_methods_boundClass_iff {s : Settings} {t : BoundType} {m : MethodDecl} :
    m ∈ (boundClass s t).methods ↔
      (offered s t).find? (·.signature == m.signature) = some m := by
  rw [methods_boundClass, ClassDecl.methods_addMethods, mem_foldl_adopt_iff,
    List.find?_eq_some_iff_append]
  simp [ClassDecl.ofName]

/-- Of the methods that the fields offer to the class, the first with this signature has another name
or other parameter types. -/
def Displaced (s : Settings) (t : BoundType) (name : String) (types : List String) : Prop :=
  ∃ m, (offered s t).find? (·.signature == signatureText name types) = some m ∧
    ¬ (m.name = name ∧ m.parameters.map (·.type) = types)

theorem hasMethod_iff_of_hasSignature {s : Settings} {t : BoundType} {name : String}
    {types : List String} (h : HasSignature (boundClass s t) name types) :
    HasMethod (boundClass s t) name types ↔ ¬ Displaced s t name types := by
  constructor
  · rintro ⟨m, hMem, rfl, rfl⟩ ⟨first, hFirst, hOther⟩
    rw [← MethodDecl.signature_eq, mem_methods_boundClass_iff.mp hMem] at hFirst
    obtain rfl := Option.some_inj.mp hFirst
    exact hOther ⟨rfl, rfl⟩
  · intro hFree
    obtain ⟨m, hMem, hSignature⟩ := h
    have hFirst := mem_methods_boundClass_iff.mp hMem
    rw [hSignature] at hFirst
    by_contra hNone
    exact hFree ⟨m, hFirst, fun hSame => hNone ⟨m, hMem, hSame.1, hSame.2⟩⟩

/-! ## Names and parameter types -/

/-- No suffix has a bracket, and written types are not empty and have no comma. -/
def WellSpelled (t : BoundType) : Prop :=
  ∀ f ∈ t.fields, Unbracketed f.suffix ∧
    ∀ type ∈ [f.valueType.written, f.valueType.writtenBoxed], type ≠ "" ∧ ',' ∉ type.toList

instance (t : BoundType) : Decidable (WellSpelled t) :=
  inferInstanceAs (Decidable (∀ f ∈ t.fields, _))

theorem eq_singleton_of_intercalate {types : List String} {type : String} (hSome : type ≠ "")
    (hComma : ',' ∉ type.toList) (h : String.intercalate "," types = type) : types = [type] := by
  cases types with
  | nil => exact absurd h.symm hSome
  | cons first rest =>
    cases rest with
    | nil =>
      rw [String.intercalate_singleton] at h
      rw [h]
    | cons second rest =>
      rw [String.intercalate_cons_cons] at h
      rw [← h] at hComma
      simp at hComma

theorem mem_offered_cases {s : Settings} {t : BoundType} {m : MethodDecl} (hMem : m ∈ offered s t) :
    (∃ g ∈ t.fields, ∃ b : Form, m.name = b.name g ∧
      m.parameters.map (·.type) = b.types (.ofSettings s) g) ∨ m ∈ ChangeNotice.methods := by
  rcases offered_cases hMem with ⟨g, hField, b, -, rfl⟩ | hListener
  · obtain ⟨original, hOriginal, rfl⟩ := List.mem_map.mp hField
    refine .inl ⟨original, hOriginal, b, ?_, ?_⟩
    · exact Form.name_method _ _ _ b
    · rw [Form.types_method, types_effectiveField]
  · exact .inr hListener

theorem types_eq_nil {h : Holding} {g : BoundField} {b : Form} (hVerb : b.verb ≠ .set)
    (hValue : h.valueType g ≠ "") (hEmpty : String.intercalate "," (b.types h g) = "") :
    b.types h g = [] := by
  cases b with
  | add | remove => exact absurd hEmpty hValue
  | addAt =>
    have hPair : "int" ++ "," ++ h.valueType g = "" := hEmpty
    simp at hPair
  | getAt | removeAt =>
    have hInt : "int" = "" := hEmpty
    exact absurd hInt (by decide)
  | setter | setAt | setArray | setCopy | setReference => exact absurd rfl hVerb
  | _ => rfl

theorem verb_ne_set_of_name {f g : BoundField} {a b : Form} (hVerb : a.verb ≠ .set)
    (hName : b.name g = a.name f) : b.verb ≠ .set := by
  rcases Verb.append_cases hName with ⟨hSame, -⟩ | ⟨hRemove, -⟩ | ⟨hClear, -⟩
  · rwa [hSame]
  · simp [hRemove]
  · simp [hClear]

theorem unbracketed_of_mem_offered {s : Settings} {t : BoundType} (hSpelled : WellSpelled t)
    {m : MethodDecl} (hMem : m ∈ offered s t) : Unbracketed m.name := by
  rcases mem_offered_cases hMem with ⟨g, hField, b, hName, -⟩ | hMethod
  · rw [hName]
    exact Form.unbracketed_name (hSpelled g hField).1 b
  · have hAll : ∀ n ∈ ChangeNotice.methods, Unbracketed n.name := by decide
    exact hAll m hMethod

theorem valueType_ne_empty {s : Settings} {t : BoundType} (hSpelled : WellSpelled t) {g : BoundField}
    (hField : g ∈ t.fields) : (Holding.ofSettings s).valueType g ≠ "" := by
  obtain ⟨-, hTypes⟩ := hSpelled g hField
  rw [Holding.valueType]
  split
  · exact (hTypes _ (List.mem_cons_of_mem _ List.mem_cons_self)).1
  · exact (hTypes _ List.mem_cons_self).1

/-- Of the accessors that descriptors call, the one parameter has a written type of the field. -/
theorem types_of_calledForm {s : Settings} {f : BoundField} {a : Form} (hCalled : a ∈ calledForms) :
    (a.types (.ofSettings s) f = [] ∧ a.verb ≠ .set) ∨
      ∃ type ∈ [f.valueType.written, f.valueType.writtenBoxed],
        a.types (.ofSettings s) f = [type] := by
  simp only [calledForms, List.mem_cons, List.not_mem_nil, or_false] at hCalled
  rcases hCalled with rfl | rfl | rfl | rfl | rfl
  · exact .inl ⟨rfl, by decide⟩
  · exact .inr ⟨_, List.mem_cons_self, rfl⟩
  · refine .inr ⟨_, ?_, rfl⟩
    rw [Holding.valueType]
    split
    · exact List.mem_cons_of_mem _ List.mem_cons_self
    · exact List.mem_cons_self
  · exact .inl ⟨rfl, by decide⟩
  · exact .inl ⟨rfl, by decide⟩

/-- Where everything is well spelled, the signature is that of a method with this name and these
parameter types. -/
theorem hasMethod_boundClass {s : Settings} {t : BoundType} (hSpelled : WellSpelled t)
    {f : BoundField} (hField : f ∈ t.fields) {a : Form} (hCalled : a ∈ calledForms)
    (hA : a.isCalledFor (.ofSettings s) f = true) :
    HasMethod (boundClass s t) (a.name f) (a.types (.ofSettings s) f) := by
  obtain ⟨m, hMem, hEq⟩ := hasSignature_boundClass hField hA
  have hOffered := methods_boundClass_subset s t hMem
  have hNames := Form.unbracketed_name (hSpelled f hField).1 a
  obtain ⟨hName, hTypes⟩ :=
    (signatureText_eq_iff (unbracketed_of_mem_offered hSpelled hOffered) hNames).mp hEq
  refine ⟨m, hMem, hName, ?_⟩
  rcases types_of_calledForm (s := s) (f := f) hCalled with ⟨hNone, hVerb⟩ | ⟨type, hType, hOne⟩
  · -- a lone parameter without a type would be written like none, so the methods are gone through
    rw [hNone] at hTypes ⊢
    rcases mem_offered_cases hOffered with ⟨g, hOther, b, hB, hParameters⟩ | hMethod
    · rw [hParameters] at hTypes ⊢
      exact types_eq_nil (verb_ne_set_of_name hVerb (hB.symm.trans hName))
        (valueType_ne_empty hSpelled hOther) hTypes
    · have hAll : ∀ n ∈ ChangeNotice.methods,
          String.intercalate "," (n.parameters.map (·.type)) ≠ "" := by decide
      exact absurd hTypes (hAll m hMethod)
  · rw [hOne, String.intercalate_singleton] at hTypes
    obtain ⟨hSome, hComma⟩ := (hSpelled f hField).2 type hType
    rw [hOne]
    exact eq_singleton_of_intercalate hSome hComma hTypes

/-! ## The descriptors of a generated type -/

theorem makesCalls_of_mem_xmlClasses {s : Settings} {t : BoundType} {d : ClassDecl}
    (hMem : d ∈ xmlClasses s t) :
    MakesCalls "target." (t.fields.flatMap (callTexts s)) (Xml.suppliedTexts s t) d := by
  rw [xmlClasses] at hMem
  split at hMem
  · rw [List.mem_singleton.mp hMem]
    exact Xml.makesCalls_describe s _ t
  · cases hMem

theorem makesCalls_of_mem_relationalClasses {s : Settings} {t : BoundType}
    {relational : List ClassDecl} (hRelational : relationalClasses s t = .ok relational)
    {d : ClassDecl} (hMem : d ∈ relational) :
    MakesCalls "getMethod(" (Relational.lookups t) (Relational.suppliedTexts s t) d := by
  rcases relationalClasses_cases hRelational with ⟨-, rfl⟩ | ⟨-, described, rfl, hDescribe⟩
  · cases hMem
  · rw [List.mem_singleton.mp hMem]
    exact Relational.makesCalls_of_describe hDescribe

/-- Whatever the descriptors of a generated type call in the bound class, or look up in it, is there
by its signature, with the types of what is passed. It is there by its name and its parameter types
unless it is displaced, which takes a bracket in a suffix, or a type that is empty or has a comma. The
constructors of the descriptors call and look up nothing else: a supplied text apart, no other line of
them has the words by which they do. -/
theorem descriptors_reach_bound_class {σ : Type} (g : Generator) (t : BoundType)
    (dialog : Option (Dialog σ)) (source : σ) {classes : List ClassDecl}
    (hOk : ((g.generate t).answer dialog source).value.2 = .ok classes) :
    ∃ bound relational, classes = bound ::
        (xmlClasses g.settings (qualifiedType g.settings t) ++ relational) ∧
      relationalClasses g.settings (qualifiedType g.settings t) = .ok relational ∧
      bound.name = g.settings.qualify t.name ∧
      (∀ f ∈ t.fields,
        Answers g.settings (HasSignature bound) f ∧
        (Answers g.settings (HasMethod bound) f ↔ ∀ a ∈ calledForms,
          a.isCalledFor (.ofSettings g.settings) f = true →
            ¬ Displaced g.settings t (a.name f) (a.types (.ofSettings g.settings) f)) ∧
        (WellSpelled t → Answers g.settings (HasMethod bound) f)) ∧
      (∀ d ∈ xmlClasses g.settings (qualifiedType g.settings t),
        MakesCalls "target." (t.fields.flatMap (callTexts g.settings))
          (Xml.suppliedTexts g.settings (qualifiedType g.settings t)) d) ∧
      ∀ d ∈ relational, MakesCalls "getMethod("
        (Relational.lookups (qualifiedType g.settings t))
        (Relational.suppliedTexts g.settings (qualifiedType g.settings t)) d := by
  obtain ⟨-, ⟨relational, hRelational, hClasses⟩, -⟩ := (generate_step g t dialog source).of_ok hOk
  refine ⟨_, relational, hClasses, hRelational, name_boundClass _ _, ?_,
    fun d hMem => makesCalls_of_mem_xmlClasses hMem,
    fun d hMem => makesCalls_of_mem_relationalClasses hRelational hMem⟩
  intro f hField
  have hMember : f ∈ (qualifiedType g.settings t).fields := hField
  refine ⟨answers_of_forms fun a _ hA => hasSignature_boundClass hMember hA, ?_, ?_⟩
  · rw [answers_iff]
    refine forall₂_congr fun a _ => forall_congr' fun hA => ?_
    exact hasMethod_iff_of_hasSignature (hasSignature_boundClass hMember hA)
  · intro hSpelled
    have hQualified : WellSpelled (qualifiedType g.settings t) := hSpelled
    exact answers_of_forms fun a hCalled hA => hasMethod_boundClass hQualified hMember hCalled hA

/-- Two fields of one suffix, whose class has one reader for both. -/
def labelled : BoundType :=
  { BoundType.ofName "Parcel" with
    fields := [.single "_code" .int "Label", .collection "_labels" .char "Label" 3] }

def labelledGenerator : Generator :=
  .ofStrategy { Settings.standard with modernMode := false, generateJdoDescriptors := true }
    .informViaLog

theorem labelled_reached :
    ¬ Separate labelledGenerator.settings labelled ∧
      ∃ bound xml relational, ((labelledGenerator.generate labelled).answer none ()).value.2 =
          .ok [bound, xml, relational] ∧
        (∀ f ∈ labelled.fields, Answers labelledGenerator.settings (HasMethod bound) f) ∧
        HasMethod bound "setLabel" ["int"] ∧ HasMethod bound "addLabel" ["char"] ∧
        (∀ l ∈ constructorLines xml, StandsIn "target." l.text →
          ∃ f ∈ labelled.fields, l.text ∈ callTexts labelledGenerator.settings f) ∧
        ∀ l ∈ constructorLines relational, StandsIn "getMethod(" l.text →
          ∃ f ∈ labelled.fields, l.text ∈ lookupTexts "Parcel" f := by
  have hSome : ((labelledGenerator.generate labelled).answer none
      ()).value.2.toOption.isSome = true := by decide +kernel
  have hSpelled : WellSpelled labelled := by decide +kernel
  refine ⟨by decide +kernel, ?_⟩
  obtain ⟨classes, hOk⟩ := exists_ok_of_isSome hSome
  obtain ⟨bound, relational, rfl, hRelational, -, hFields, hXml, hLookups⟩ :=
    descriptors_reach_bound_class labelledGenerator labelled none () hOk
  have hAnswers : ∀ f ∈ labelled.fields, Answers labelledGenerator.settings (HasMethod bound) f :=
    fun f hField => (hFields f hField).2.2 hSpelled
  have hCode := hAnswers (.single "_code" .int "Label") (by decide)
  have hLabels := hAnswers (.collection "_labels" .char "Label" 3) (by decide)
  rcases relationalClasses_cases hRelational with ⟨hUnasked, -⟩ | ⟨-, d, rfl, -⟩
  · cases hUnasked
  refine ⟨bound, _, d, hOk, hAnswers, (hCode.writes rfl).2, (hLabels.adds rfl).2, ?_, ?_⟩
  · intro l hLine hWord
    exact List.mem_flatMap.mp
      ((hXml _ (List.mem_singleton_self _)).mem_calls (by decide +kernel) hLine hWord)
  · intro l hLine hWord
    obtain ⟨f, hMapped, hLookup⟩ := List.mem_flatMap.mp
      ((hLookups d (List.mem_singleton_self d)).mem_calls (by decide +kernel) hLine hWord)
    exact ⟨f, (Relational.mem_mappedFields.mp hMapped).1, hLookup⟩

/-- Two fields whose writers have one signature, `setX(A(int)`: in the one the bracket belongs to the
type, in the other to the suffix. -/
def bracketed : BoundType :=
  { BoundType.ofName "Order" with
    fields := [.single "_wide" (.bound "A(int") "X", .single "_narrow" .int "X(A"] }

def bracketedGenerator : Generator :=
  .ofStrategy { Settings.standard with generateJdoDescriptors := true } .informViaLog

theorem bracketed_suffix_unanswered :
    ∃ bound xml relational, ((bracketedGenerator.generate bracketed).answer none ()).value.2 =
        .ok [bound, xml, relational] ∧
      (∃ l ∈ constructorLines xml, l.text = "target.setX(A(((Integer) value).intValue());") ∧
      (∃ l ∈ constructorLines relational,
        l.text = "Method narrowSetMethod = Order.class.getMethod(\"setX(A\", int.class);") ∧
      ¬ HasMethod bound "setX(A" ["int"] := by
  have hSome : ((bracketedGenerator.generate bracketed).answer none
      ()).value.2.toOption.isSome = true := by decide +kernel
  obtain ⟨classes, hOk⟩ := exists_ok_of_isSome hSome
  obtain ⟨-, ⟨relational, hRelational, rfl⟩, -⟩ := (generate_step _ _ _ _).of_ok hOk
  rcases relationalClasses_cases hRelational with ⟨hUnasked, -⟩ | ⟨-, d, rfl, hDescribe⟩
  · cases hUnasked
  refine ⟨_, _, d, hOk, ?_, ?_, ?_⟩
  · exact (Xml.makesCalls_describe _ _ _).made _ (by decide +kernel)
  · exact (Relational.makesCalls_of_describe hDescribe).made _ (by decide +kernel)
  · have hNone : ∀ m ∈ (boundClass bracketedGenerator.settings
        (qualifiedType bracketedGenerator.settings bracketed)).methods,
        ¬ (m.name = "setX(A" ∧ m.parameters.map (·.type) = ["int"]) := by decide +kernel
    exact fun ⟨m, hMem, hSame⟩ => hNone m hMem hSame

end BeanGen.Generation
