import BeanGen.Proofs.Descriptor.Ancestry
import BeanGen.Proofs.Generation.History
import BeanGen.Proofs.Settings.Qualify
import BeanGen.Settings.Validity

/-!
# The global superclass as a parent

The name of a parent gets the package of the settings before the descriptor compares it with the
global superclass, and the global superclass is compared as the settings have it. So the two meet
where a parent keeps its name, and a global superclass that has no package of its own is taken for
another class than the parent of that name as soon as the settings have a package.
-/

namespace BeanGen.Generation

open Conflict Descriptor Java

variable {σ : Type} {g : Generator} {t : BoundType} {dialog : Option (Dialog σ)} {source : σ}
  {classes : List ClassDecl}

theorem exists_descriptor_of_ok (hDescriptors : g.settings.generateDescriptors = true)
    (hOk : ((g.generate t).answer dialog source).value.2 = .ok classes) :
    ∃ bound relational, classes = bound ::
      Xml.describe g.settings (Xml.nameFor g.settings (g.settings.qualify t.name))
        (qualifiedType g.settings t) :: relational := by
  obtain ⟨-, ⟨relational, -, hClasses⟩, -⟩ := (generate_step g t dialog source).of_ok hOk
  rw [xmlClasses, if_pos hDescriptors] at hClasses
  exact ⟨_, relational, hClasses⟩

section Described

variable {s : Settings} {parent : String}

theorem describedParent?_of_eq (hParent : t.parent = some parent)
    (hSuper : s.superClass = some (s.qualify parent)) :
    Xml.describedParent? s (qualifiedType s t) = none := by
  simp [Xml.describedParent?, qualifiedType, hParent, hSuper]

theorem describedParent?_of_ne (hParent : t.parent = some parent)
    (hSuper : s.superClass ≠ some (s.qualify parent)) :
    Xml.describedParent? s (qualifiedType s t) = some (s.qualify parent) := by
  simp [Xml.describedParent?, qualifiedType, hParent, hSuper]

theorem describedParent?_eq_none_iff (hParent : t.parent = some parent) :
    Xml.describedParent? s (qualifiedType s t) = none ↔ s.superClass = some (s.qualify parent) := by
  by_cases hSuper : s.superClass = some (s.qualify parent)
  · exact iff_of_true (describedParent?_of_eq hParent hSuper) hSuper
  · rw [describedParent?_of_ne hParent hSuper]
    exact iff_of_false nofun hSuper

end Described

/-- The descriptor of a type whose parent is the global superclass stands alone if there is no
package, or if the name has one already. Otherwise it extends the descriptor of the class of that
name in the package. -/
theorem global_superclass_stands_alone_iff {superClass : String}
    (hSuper : g.settings.superClass = some superClass)
    (hDescriptors : g.settings.generateDescriptors = true) (hParent : t.parent = some superClass)
    (hOk : ((g.generate t).answer dialog source).value.2 = .ok classes) :
    ∃ bound descriptor rest, classes = bound :: descriptor :: rest ∧
      descriptor.name = Xml.nameFor g.settings (g.settings.qualify t.name) ∧
      (StandsAlone g.settings descriptor ↔
        g.settings.package = "" ∨ isQualified superClass = true) ∧
      (g.settings.package ≠ "" → isQualified superClass = false →
        Extends descriptor (Xml.nameFor g.settings (g.settings.package ++ "." ++ superClass))) := by
  obtain ⟨bound, relational, rfl⟩ := exists_descriptor_of_ok hDescriptors hOk
  refine ⟨bound, _, relational, rfl, Xml.name_describe _ _ _, ?_, ?_⟩
  · calc StandsAlone g.settings _
        ↔ Xml.describedParent? g.settings (qualifiedType g.settings t) = none :=
          standsAlone_describe_iff _ _ _
      _ ↔ g.settings.superClass = some (g.settings.qualify superClass) :=
          describedParent?_eq_none_iff hParent
      _ ↔ g.settings.qualify superClass = superClass := by
          rw [hSuper, Option.some_inj, eq_comm]
      _ ↔ g.settings.package = "" ∨ isQualified superClass = true :=
          Settings.qualify_eq_self_iff
  · intro hPackage hFree
    have hName := Settings.qualify_of_free hPackage hFree
    have hOther : g.settings.superClass ≠ some (g.settings.qualify superClass) := by
      rw [hSuper, ne_eq, Option.some_inj, eq_comm, Settings.qualify_eq_self_iff, not_or, hFree]
      exact ⟨hPackage, nofun⟩
    rw [← hName]
    exact extends_describe (describedParent?_of_ne hParent hOther) _

def settingsUnder (superClass : String) : Settings :=
  { Settings.packaged with superClass := some superClass }

def heir (parent : String) : BoundType :=
  { BoundType.ofName "Order" with parent := some parent }

theorem global_superclass_stands_alone_base :
    (∃ classes, (((Generator.ofStrategy (settingsUnder "org.example.Base") .informViaLog).generate
        (heir "org.example.Base")).answer (none : Option (Dialog Unit)) ()).value.2 = .ok classes ∧
      ∃ descriptor ∈ classes, StandsAlone (settingsUnder "org.example.Base") descriptor) ∧
    ∃ classes, (((Generator.ofStrategy (settingsUnder "Base") .informViaLog).generate
        (heir "Base")).answer (none : Option (Dialog Unit)) ()).value.2 = .ok classes ∧
      ∃ descriptor ∈ classes, Extends descriptor "org.example.BaseDescriptor" := by
  have hFull : (((Generator.ofStrategy (settingsUnder "org.example.Base") .informViaLog).generate
      (heir "org.example.Base")).answer (none : Option (Dialog Unit))
      ()).value.2.toOption.isSome = true := by decide +kernel
  have hShort : (((Generator.ofStrategy (settingsUnder "Base") .informViaLog).generate
      (heir "Base")).answer (none : Option (Dialog Unit)) ()).value.2.toOption.isSome = true := by
    decide +kernel
  constructor
  · obtain ⟨classes, hOk⟩ := exists_ok_of_isSome hFull
    obtain ⟨_, descriptor, _, rfl, -, hAlone, -⟩ :=
      global_superclass_stands_alone_iff rfl rfl rfl hOk
    exact ⟨_, hOk, descriptor, by simp, hAlone.mpr (.inr (by decide))⟩
  · obtain ⟨classes, hOk⟩ := exists_ok_of_isSome hShort
    obtain ⟨_, descriptor, _, rfl, -, -, hExtends⟩ :=
      global_superclass_stands_alone_iff rfl rfl rfl hOk
    exact ⟨_, hOk, descriptor, by simp, hExtends (by decide) (by decide)⟩

/-- In a package, the parent `Base` is not the global superclass `Base`. -/
theorem unqualified_superclass_extended :
    ¬ ∀ (s : Settings) (strategy : Strategy) (t : BoundType) (superClass : String)
      (classes : List ClassDecl), s.check = .ok () → s.superClass = some superClass →
      s.generateDescriptors = true → t.validate = .ok () → t.parent = some superClass →
      (((Generator.ofStrategy s strategy).generate t).answer (none : Option (Dialog Unit))
        ()).value.2 = .ok classes →
      ∃ bound descriptor rest, classes = bound :: descriptor :: rest ∧
        StandsAlone s descriptor := by
  intro h
  have hSettings : (settingsUnder "Base").check = .ok () := by decide +kernel
  have hValid : (heir "Base").validate = .ok () := by decide +kernel
  have hSome : (((Generator.ofStrategy (settingsUnder "Base") .informViaLog).generate
      (heir "Base")).answer (none : Option (Dialog Unit)) ()).value.2.toOption.isSome = true := by
    decide +kernel
  obtain ⟨classes, hOk⟩ := exists_ok_of_isSome hSome
  obtain ⟨bound, descriptor, rest, hClasses, hAlone⟩ :=
    h (settingsUnder "Base") .informViaLog (heir "Base") "Base" classes hSettings rfl rfl hValid rfl
      hOk
  obtain ⟨_, _, hDescribed⟩ := exists_descriptor_of_ok rfl hOk
  rw [hDescribed] at hClasses
  obtain ⟨rfl, -⟩ := List.cons.inj (List.cons.inj hClasses).2
  have hNone := (standsAlone_describe_iff _ _ _).mp hAlone
  exact absurd ((describedParent?_eq_none_iff rfl).mp hNone) (by decide)

end BeanGen.Generation
