import BeanGen.Proofs.Descriptor.Spelling
import BeanGen.Proofs.Generation.Imports

/-!
# Whatever a class names, it imports

The classes that are written in the text of a class by their simple names alone are among those that
the class asks for, so each of them needs no import or has one. What the schema and the settings
supply is copied into the text as it is; which classes it means is not looked into.
-/

namespace BeanGen.Generation

open Accessor Conflict Java ClassDecl

/-- What a type and the settings supply to the text of its classes. -/
def suppliedTexts (s : Settings) (t : BoundType) : List String :=
  s.runtime.externalStoreFactory :: s.arrayMarkers ++ t.descriptorTexts ++
    t.fields.flatMap fun f => f.texts ++ f.descriptorTexts

/-! ## Bound classes -/

section Bound

variable {supplied named : String → Prop} {s : Settings}

/-- What the text of a bound class takes from a field is known. -/
structure KnownField (supplied named : String → Prop) (s : Settings) (f : BoundField) : Prop where
  texts : ∀ text ∈ f.texts, supplied text
  factory : supplied s.runtime.externalStoreFactory
  markers : ∀ text ∈ s.arrayMarkers, supplied text
  names : ∀ q ∈ fieldNames s f, named q

namespace KnownField

variable {f : BoundField} {c : ClassDecl} (k : KnownField supplied named s f)
include k

theorem single (hSingle : f.isCollection = false) : Known supplied named f where
  texts := k.texts
  content q hq := by
    refine k.names q ?_
    rw [fieldNames, if_neg (by rw [hSingle]; exact Bool.false_ne_true)]
    exact hq

theorem many (hMany : f.isCollection = true) :
    KnownCollection supplied named (.ofSettings s) f where
  texts := k.texts
  factory := k.factory
  names q hq := by
    refine k.names q ?_
    rwa [fieldNames, if_pos hMany]
  content q hq := by
    refine k.names q ?_
    have hElement : q ∈ ((Holding.ofSettings s).layout f).imports :=
      List.mem_cons_of_mem _ (List.mem_append_left _ hq)
    rw [fieldNames, if_pos hMany, collectionNames]
    exact List.mem_append_left _ (List.mem_append_left _ hElement)

theorem accessors : ∀ m ∈ accessors s f, ∀ text ∈ m.codeTexts, Spelled supplied named text := by
  intro m hMethod
  obtain ⟨a, hA, rfl⟩ := mem_accessors.mp hMethod
  cases hMany : f.isCollection with
  | true => exact (k.many hMany).collectionMethod k.markers hMany hA
  | false => exact (k.single hMany).scalarMethod _ _ hMany hA

theorem initialLines : Spells supplied named (initialLines s f) := by
  rw [Generation.initialLines]
  split
  · rename_i hMany
    exact (k.many hMany).collectionInitialLines
  · rename_i hSingle
    exact (k.single (Bool.eq_false_of_not_eq_true hSingle)).scalarInitialLines

/-- One field: what it adds to a class is spelled. Listeners are asked for only where they come. -/
theorem withProperty (h : c.IsSpelled supplied named)
    (hNotices : (f.bound && !((c.field? ChangeNotice.supportField).isSome ||
      f.name == ChangeNotice.supportField)) = true → ∀ q ∈ listenerNames, named q) :
    (withProperty s c f).IsSpelled supplied named := by
  have hAccessors := k.accessors
  rw [Generation.accessors] at hAccessors
  rw [Generation.withProperty]
  split
  · rename_i hMany
    rw [if_pos hMany] at hAccessors
    have hDeclared := (h.addImports ((Holding.ofSettings s).layout f).imports).addField
      (k.many hMany).collectionMember
    refine isSpelled_installIfBound (hDeclared.emitAll hAccessors) fun hInstalls => hNotices ?_
    rwa [ClassDecl.field?_emitAll, Collection.declare, ClassDecl.isSome_field?_addField,
      ClassDecl.field?_addImports] at hInstalls
  · rename_i hSingle
    rw [if_neg hSingle] at hAccessors
    have hDeclared := (h.addImports f.valueType.imports).addFields
      (k.single (Bool.eq_false_of_not_eq_true hSingle)).scalarMembers
    refine isSpelled_installIfBound (hDeclared.emitAll hAccessors) fun hInstalls => hNotices ?_
    rwa [ClassDecl.field?_emitAll, isSome_field?_declare] at hInstalls

end KnownField

theorem isSpelled_foldl_withProperty {fs : List BoundField} {c : ClassDecl}
    (h : c.IsSpelled supplied named) (hFields : ∀ f ∈ fs, KnownField supplied named s f)
    (hNotices : (!(c.field? ChangeNotice.supportField).isSome &&
      (fs.takeWhile (·.name != ChangeNotice.supportField)).any (·.bound)) = true →
        ∀ q ∈ listenerNames, named q) :
    (fs.foldl (withProperty s) c).IsSpelled supplied named := by
  induction fs generalizing c with
  | nil => exact h
  | cons f fs ih =>
    obtain ⟨hField, hRest⟩ := List.forall_mem_cons.mp hFields
    -- The listeners come with this field or a later one, and neither finds a member in the way.
    have hHere : (f.bound && !((c.field? ChangeNotice.supportField).isSome ||
        f.name == ChangeNotice.supportField)) = true → ∀ q ∈ listenerNames, named q := by
      intro hFirst
      refine hNotices ?_
      simp only [Bool.and_eq_true, Bool.not_eq_true', Bool.or_eq_false_iff] at hFirst
      obtain ⟨hBound, hFree, hName⟩ := hFirst
      simp [hFree, bne, hName, hBound]
    refine ih (hField.withProperty h hHere) hRest fun hLater => hNotices ?_
    rw [isSome_field?_withProperty] at hLater
    simp only [Bool.and_eq_true, Bool.not_eq_true', Bool.or_eq_false_iff] at hLater
    obtain ⟨⟨⟨hFree, hName⟩, -⟩, hAny⟩ := hLater
    rw [hFree, List.takeWhile_cons, bne, hName, Bool.not_false, if_pos rfl, List.any_cons, hAny,
      Bool.or_true, Bool.true_and]

/-- Whatever a bound class names, it asks for. -/
theorem isSpelled_boundClass (s : Settings) (t : BoundType) :
    (boundClass s t).IsSpelled (· ∈ suppliedTexts s t) (· ∈ boundNames s t) := by
  have hFields : ∀ f ∈ effectiveFields s t,
      KnownField (· ∈ suppliedTexts s t) (· ∈ boundNames s t) s f := by
    intro f hf
    obtain ⟨g, hg, rfl⟩ := List.mem_map.mp hf
    refine ⟨fun text hText => ?_, List.mem_cons_self, fun text hText => ?_, fun q hq => ?_⟩
    · have hField : text ∈ t.fields.flatMap fun f => f.texts ++ f.descriptorTexts :=
        List.mem_flatMap.mpr ⟨g, hg, List.mem_append_left _ hText⟩
      exact List.mem_append_right _ hField
    · exact List.mem_append_left _ (List.mem_append_left _ (List.mem_cons_of_mem _ hText))
    · have hField : q ∈ (effectiveFields s t).flatMap (fieldNames s) :=
        List.mem_flatMap.mpr ⟨_, hf, hq⟩
      exact List.mem_append_left _ (List.mem_append_right _ hField)
  have hEmpty : (emptyClass s t).IsSpelled (· ∈ suppliedTexts s t) (· ∈ boundNames s t) := by
    obtain ⟨imports, hImports⟩ :=
      (ClassDecl.ofName t.name).exists_addImports_eq (superclass? s t).toList
    rw [emptyClass, hImports]
    refine ⟨?_, List.forall_mem_nil _, List.forall_mem_nil _, List.forall_mem_nil _⟩
    have hParent : ∀ q ∈ (superclass? s t).toList, q ∈ boundNames s t := fun q hq =>
      List.mem_append_left _ (List.mem_append_left _ hq)
    cases hSuper : superclass? s t with
    | none => exact List.forall_mem_nil _
    | some parent =>
      refine List.forall_mem_singleton.mpr ?_
      rw [simpleName_simpleName]
      exact .className (hParent parent (by simp [hSuper]))
  have hAll : ((effectiveFields s t).foldl (withProperty s) (emptyClass s t)).IsSpelled
      (· ∈ suppliedTexts s t) (· ∈ boundNames s t) := by
    refine isSpelled_foldl_withProperty hEmpty hFields fun hNotices q hq => ?_
    have hListeners : hasListeners s t = true := (Bool.and_eq_true_iff.mp hNotices).2
    rw [boundNames, if_pos hListeners]
    exact List.mem_append_right _ hq
  refine hAll.addConstructor (ConstructorDecl.spelled_plain ?_)
  rw [spells_cons, spells_flatMap]
  exact ⟨.plain (by decide), fun f hf => (hFields f hf).initialLines⟩

end Bound

/-! ## All classes of a type -/

theorem knownType (s : Settings) (t : BoundType) :
    Descriptor.KnownType (· ∈ suppliedTexts s t) t where
  texts _ hText :=
    List.mem_append_left _ (List.mem_append_right _ hText)
  fieldTexts f hField _ hText :=
    List.mem_append_right _ (List.mem_flatMap.mpr ⟨f, hField, hText⟩)

theorem isSpelled_xmlClasses (s : Settings) (t : BoundType) :
    List.Forall₂ (fun c names => c.IsSpelled (· ∈ suppliedTexts s t) (· ∈ names)) (xmlClasses s t)
      (if s.generateDescriptors then [Descriptor.Xml.imports s t] else []) := by
  rw [xmlClasses]
  split
  · have hSupplied : Descriptor.Xml.Supplied (· ∈ suppliedTexts s t)
        (· ∈ Descriptor.Xml.imports s t) s t := ⟨knownType s t, fun _ => id⟩
    exact .cons (hSupplied.describe _) .nil
  · exact .nil

theorem isSpelled_relationalClasses {s : Settings} {t : BoundType} {classes : List ClassDecl}
    (h : relationalClasses s t = .ok classes) :
    List.Forall₂ (fun c names => c.IsSpelled (· ∈ suppliedTexts s t) (· ∈ names)) classes
      (if s.generateJdoDescriptors then [Descriptor.Relational.imports s t.binding] else []) := by
  rcases relationalClasses_cases h with ⟨hUnasked, rfl⟩ | ⟨hAsked, d, rfl, hDescribe⟩
  · simp [hUnasked]
  · have hSupplied : Descriptor.Relational.Supplied (· ∈ suppliedTexts s t)
        (· ∈ Descriptor.Relational.imports s t.binding) s t := ⟨knownType s t, fun _ => id⟩
    rw [if_pos hAsked]
    exact .cons (hSupplied.describe hDescribe) .nil

theorem Step.isSpelled_of_ok {σ : Type} {g : Generator} {t : BoundType}
    {dialog : Option (Dialog σ)} {source : σ}
    {o : Outcome σ (Generator × Except BindError (List ClassDecl))}
    (h : Step g t dialog source o) {classes : List ClassDecl} (hOk : o.value.2 = .ok classes) :
    List.Forall₂ (fun c names => c.IsSpelled (· ∈ suppliedTexts g.settings t) (· ∈ names)) classes
      (asked g.settings t) := by
  obtain ⟨-, ⟨relational, hRelational, rfl⟩, -⟩ := h.of_ok hOk
  exact .cons (isSpelled_boundClass g.settings t)
    (List.rel_append (isSpelled_xmlClasses g.settings t) (isSpelled_relationalClasses hRelational))

/-- Each class of a type asks for some classes, and the simple name of each of these can be written
in it. In its text, labels and what is supplied apart, no other class is written by its simple
name. -/
theorem imports_what_it_names {σ : Type} (g : Generator) (t : BoundType)
    (dialog : Option (Dialog σ)) (source : σ) {classes : List ClassDecl}
    (hOk : ((g.generate t).answer dialog source).value.2 = .ok classes) :
    List.Forall₂
      (fun c names => (∀ q ∈ names, c.Reaches q) ∧
        Spells (fun text => text ∈ suppliedTexts g.settings (qualifiedType g.settings t) ∨
          text ∈ c.labels) (· ∈ names) c.unitLines)
      classes (asked g.settings (qualifiedType g.settings t)) := by
  have hStep := generate_step g t dialog source
  refine List.Forall₂.mp ?_ (hStep.asked_of_ok hOk) (hStep.isSpelled_of_ok hOk)
  exact fun c names hAsked hSpelled => ⟨fun q hq => hAsked.reaches hq, hSpelled.spells_text⟩

/-- A parent, a date, and a collection of numbers whose changes are told. -/
def consignment : BoundType :=
  { BoundType.ofName "freight.Consignment" with
    parent := some "freight.base.Document"
    fields := [.single "sent" .date "Sent",
      { BoundField.collection "weights" .int "Weight" 0 with bound := true }] }

theorem consignment_imports :
    ∃ bound rest, (((Generator.ofStrategy .standard .informViaLog).generate consignment).answer
        (none : Option (Dialog Unit)) ()).value.2 = .ok (bound :: rest) ∧
      (∀ q ∈ ["freight.base.Document", "java.util.Date", "java.util.List",
        "java.util.ArrayList", "java.util.Iterator", "java.beans.PropertyChangeSupport"],
          bound.Reaches q) ∧
      Spells (fun text => text ∈ suppliedTexts .standard consignment ∨ text ∈ bound.labels)
        (· ∈ boundNames .standard consignment) bound.unitLines := by
  have hSome : (((Generator.ofStrategy .standard .informViaLog).generate consignment).answer
      (none : Option (Dialog Unit)) ()).value.2.toOption.isSome = true := by decide +kernel
  obtain ⟨classes, hOk⟩ := exists_ok_of_isSome hSome
  obtain ⟨-, ⟨relational, -, rfl⟩, -⟩ := (generate_step _ _ _ _).of_ok hOk
  obtain ⟨⟨hReaches, hSpells⟩, -⟩ :=
    List.forall₂_cons.mp (imports_what_it_names _ consignment none () hOk)
  refine ⟨_, _, hOk, fun q hq => hReaches q ?_, hSpells⟩
  revert q
  decide +kernel

end BeanGen.Generation
