import BeanGen.Proofs.Accessor.Imports
import BeanGen.Proofs.Descriptor.Calls
import BeanGen.Proofs.Generation.History
import BeanGen.Proofs.Generation.Separate

/-!
# What the classes of a type import

What the classes of a type ask for follows from the type and the settings alone. An import is told
from another by its full name when it is added, and by its simple name in the text, so a class is
ambiguous as soon as two of the classes it asks for share a simple name.
-/

namespace BeanGen.Generation

open Accessor Conflict Java ClassDecl

def fieldNames (s : Settings) (f : BoundField) : List String :=
  if f.isCollection then collectionNames (.ofSettings s) f else f.valueType.imports

/-- The classes that the bound class of a type asks for. -/
def boundNames (s : Settings) (t : BoundType) : List String :=
  (superclass? s t).toList ++ (effectiveFields s t).flatMap (fieldNames s) ++
    if hasListeners s t then listenerNames else []

section Bound

variable {s : Settings} {t : BoundType} {c : ClassDecl} {names : List String}

theorem asked_withProperty (h : c.Asked names) (f : BoundField) :
    (withProperty s c f).Asked (names ++ (fieldNames s f ++
      if f.bound && !((c.field? ChangeNotice.supportField).isSome ||
        f.name == ChangeNotice.supportField) then listenerNames else [])) := by
  rw [withProperty, fieldNames, ← List.append_assoc]
  split
  · have hInstalled := asked_installIfBound (asked_collection h (.ofSettings s) s.arrayMarkers f) f
    rwa [ClassDecl.field?_emitAll, Collection.declare, ClassDecl.isSome_field?_addField,
      ClassDecl.field?_addImports] at hInstalled
  · have hInstalled := asked_installIfBound (asked_scalar h f) f
    rwa [ClassDecl.field?_emitAll, isSome_field?_declare] at hInstalled

theorem asked_foldl_withProperty (h : c.Asked names) (fs : List BoundField) :
    (fs.foldl (withProperty s) c).Asked (names ++ (fs.flatMap (fieldNames s) ++
      if !(c.field? ChangeNotice.supportField).isSome &&
        (fs.takeWhile (·.name != ChangeNotice.supportField)).any (·.bound) then listenerNames
      else [])) := by
  induction fs generalizing c names with
  | nil => simpa using h
  | cons f fs ih =>
    refine (ih (asked_withProperty h f)).congr fun q => ?_
    rw [isSome_field?_withProperty]
    cases (c.field? ChangeNotice.supportField).isSome <;>
      cases hName : f.name == ChangeNotice.supportField <;> cases hBound : f.bound <;>
      simp [hName, hBound, bne, -List.mem_flatMap]
    all_goals tauto

theorem asked_boundClass (s : Settings) (t : BoundType) :
    (boundClass s t).Asked (boundNames s t) := by
  have hEmpty : (emptyClass s t).Asked (superclass? s t).toList :=
    (Asked.ofName_addImports t.name (superclass? s t).toList).of_eq rfl rfl
  have hMember : (emptyClass s t).field? ChangeNotice.supportField = none := by
    simp [emptyClass, ClassDecl.field?, ClassDecl.ofName]
  have hFields := asked_foldl_withProperty (s := s) hEmpty (effectiveFields s t)
  rw [hMember, ← List.append_assoc] at hFields
  exact hFields.of_eq rfl rfl

end Bound

/-! ## All classes of a type -/

/-- What the classes of a type ask for, class by class. -/
def asked (s : Settings) (t : BoundType) : List (List String) :=
  boundNames s t ::
    ((if s.generateDescriptors then [Descriptor.Xml.imports s t] else []) ++
      if s.generateJdoDescriptors then [Descriptor.Relational.imports s t.binding] else [])

theorem asked_describe (s : Settings) (name : String) (t : BoundType) :
    (Descriptor.Xml.describe s name t).Asked (Descriptor.Xml.imports s t) := by
  have hImports := Asked.ofName_addImports name (Descriptor.Xml.imports s t)
  exact hImports.of_eq (by rw [Descriptor.Xml.describe]) (by rw [Descriptor.Xml.describe])

theorem asked_xmlClasses (s : Settings) (t : BoundType) :
    List.Forall₂ Asked (xmlClasses s t)
      (if s.generateDescriptors then [Descriptor.Xml.imports s t] else []) := by
  rw [xmlClasses]
  split
  · exact .cons (asked_describe s _ t) .nil
  · exact .nil

theorem asked_relationalClasses {s : Settings} {t : BoundType} {classes : List ClassDecl}
    (h : relationalClasses s t = .ok classes) :
    List.Forall₂ Asked classes
      (if s.generateJdoDescriptors then [Descriptor.Relational.imports s t.binding] else []) := by
  rcases relationalClasses_cases h with ⟨hUnasked, rfl⟩ | ⟨hAsked, d, rfl, hDescribe⟩
  · simp [hUnasked]
  · obtain ⟨identities, -, rfl⟩ := Descriptor.exists_identities_of_describe hDescribe
    rw [if_pos hAsked]
    have hImports := Asked.ofName_addImports (Descriptor.Relational.nameFor s t.name)
      (Descriptor.Relational.imports s t.binding)
    refine .cons ?_ .nil
    exact hImports.of_eq (by rw [Descriptor.Relational.withIdentities])
      (by rw [Descriptor.Relational.withIdentities])

theorem Step.asked_of_ok {σ : Type} {g : Generator} {t : BoundType} {dialog : Option (Dialog σ)}
    {source : σ} {o : Outcome σ (Generator × Except BindError (List ClassDecl))}
    (h : Step g t dialog source o) {classes : List ClassDecl} (hOk : o.value.2 = .ok classes) :
    List.Forall₂ Asked classes (asked g.settings t) := by
  obtain ⟨-, ⟨relational, hRelational, rfl⟩, -⟩ := h.of_ok hOk
  exact .cons (asked_boundClass g.settings t)
    (List.rel_append (asked_xmlClasses g.settings t) (asked_relationalClasses hRelational))

/-- A class of a type is ambiguous exactly if two of the classes it asks for, or one of them and the
class itself, share a simple name; and a simple name stands for the class that is meant exactly if
no other of these has it. -/
theorem unambiguous_iff_apart {σ : Type} (g : Generator) (t : BoundType) (dialog : Option (Dialog σ))
    (source : σ) {classes : List ClassDecl}
    (hOk : ((g.generate t).answer dialog source).value.2 = .ok classes) :
    List.Forall₂
      (fun c names => (c.Unambiguous ↔ Apart (c.told names)) ∧
        (∀ q, c.Resolves q ↔ ∀ d ∈ c.told names, simpleName d = simpleName q → d = c.inFull q) ∧
        (c.Unambiguous → ∀ q ∈ names, c.needsNoImport q = false → c.Resolves q))
      classes (asked g.settings (qualifiedType g.settings t)) := by
  refine ((generate_step g t dialog source).asked_of_ok hOk).imp ?_
  intro c names hAsked
  refine ⟨hAsked.unambiguous_iff, hAsked.resolves_iff, ?_⟩
  intro hUnambiguous q hq hNeeds
  exact hUnambiguous.resolves hAsked hq hNeeds

/-- Dates and sets, a parent in another package, and a class of the same package. -/
def shipment : BoundType :=
  { BoundType.ofName "shop.Shipment" with
    parent := some "shop.base.Document"
    fields := [.single "placed" .date "Placed", .collection "parts" (.bound "shop.Part") "Part" 0] }

theorem shipment_unambiguous :
    ∃ bound rest, (((Generator.ofStrategy .standard .informViaLog).generate shipment).answer
        (none : Option (Dialog Unit)) ()).value.2 = .ok (bound :: rest) ∧ bound.Unambiguous ∧
      bound.Resolves "java.util.Date" ∧ bound.Resolves "shop.Part" := by
  have hSome : (((Generator.ofStrategy .standard .informViaLog).generate shipment).answer
      (none : Option (Dialog Unit)) ()).value.2.toOption.isSome = true := by decide +kernel
  obtain ⟨classes, hOk⟩ := exists_ok_of_isSome hSome
  obtain ⟨-, ⟨relational, -, rfl⟩, -⟩ := (generate_step _ _ _ _).of_ok hOk
  obtain ⟨⟨hApart, hResolves, -⟩, -⟩ :=
    List.forall₂_cons.mp (unambiguous_iff_apart _ shipment none () hOk)
  refine ⟨_, _, hOk, hApart.mpr ?_, (hResolves _).mpr ?_, (hResolves _).mpr ?_⟩
  all_goals decide +kernel

/-- Two dates that only their packages tell apart. -/
def billing : BoundType :=
  { BoundType.ofName "Order" with
    fields := [.single "placed" .date "Placed",
      .single "billed" (.bound "java.sql.Date") "Billed"] }

/-- Both classes are imported, and the text calls both of them `Date`. -/
theorem two_dates_ambiguous :
    ¬ ∀ (g : Generator) (t : BoundType) (classes : List ClassDecl),
      ((g.generate t).answer (none : Option (Dialog Unit)) ()).value.2 = .ok classes →
      ∀ c ∈ classes, c.Unambiguous := by
  intro h
  have hSome : (((Generator.ofStrategy .standard .informViaLog).generate billing).answer
      (none : Option (Dialog Unit)) ()).value.2.toOption.isSome = true := by decide +kernel
  obtain ⟨classes, hOk⟩ := exists_ok_of_isSome hSome
  obtain ⟨-, ⟨relational, -, hClasses⟩, -⟩ := (generate_step _ _ _ _).of_ok hOk
  have hBound := h _ _ classes hOk _ (hClasses ▸ List.mem_cons_self)
  exact absurd ((asked_boundClass _ _).unambiguous_iff.mp hBound) (by decide +kernel)

end BeanGen.Generation
