import BeanGen.Proofs.Generation.Reordering
import BeanGen.Proofs.Schema.Acceptance
import BeanGen.Proofs.Settings.Qualify
import BeanGen.Settings.Validity

/-!
# Invalid types that a generator refuses

A generator puts the package of the settings before the name of a type, and then checks the type.
What the check asks besides a name that is not blank stays as it was, but the point behind a package
makes any name visible. So the types that are refused are the invalid ones, less those that have
nothing wrong with them but a blank name where there is a package.
-/

namespace BeanGen.Generation

open Conflict Java

variable {σ : Type}

/-- Nothing is wrong with the type but its blank name, and a package comes before that. -/
structure Covered (s : Settings) (t : BoundType) : Prop where
  packaged : s.package ≠ ""
  blank : Text.allBlank t.name = true
  consistent : t.Consistent

/-- The type with the package put before its name, whatever that is. -/
def inPackage (s : Settings) (t : BoundType) : BoundType :=
  { t with name := s.package ++ "." ++ t.name }

theorem isQualified_of_allBlank {name : String} (h : Text.allBlank name = true) :
    isQualified name = false := by
  rw [isQualified_eq_false_iff]
  intro hPoint
  exact absurd (List.all_eq_true.mp h '.' hPoint) (by decide)

theorem visible_joined (package name : String) :
    ∃ c ∈ (package ++ "." ++ name).toList, Text.isBlank c = false := by
  refine ⟨'.', ?_, by decide⟩
  rw [toList_joined]
  exact List.mem_append_right _ List.mem_cons_self

theorem visible_qualify_iff {s : Settings} {name : String} :
    (∃ c ∈ (s.qualify name).toList, Text.isBlank c = false) ↔
      s.package ≠ "" ∨ ∃ c ∈ name.toList, Text.isBlank c = false := by
  rcases Settings.qualify_cases s name with ⟨hEmpty | hQualified, hEq⟩ | ⟨hPackage, -, hEq⟩
  · rw [hEq, hEmpty]
    simp
  · -- a qualified name has a point, so it can be seen anyway
    rw [hEq]
    refine (or_iff_right_of_imp ?_).symm
    intro
    apply Text.allBlank_eq_false_iff.mp
    rw [← Bool.not_eq_true]
    intro hBlank
    rw [isQualified_of_allBlank hBlank] at hQualified
    cases hQualified
  · rw [hEq]
    exact iff_of_true (visible_joined s.package name) (.inl hPackage)

theorem valid_qualifiedType_iff {s : Settings} {t : BoundType} :
    (qualifiedType s t).Valid ↔ t.Valid ∨ Covered s t := by
  constructor
  · intro h
    have hConsistent : t.Consistent := h.toConsistent.of_eq rfl rfl
    cases hBlank : Text.allBlank t.name with
    | false => exact .inl ⟨hConsistent, Text.allBlank_eq_false_iff.mp hBlank⟩
    | true =>
      rcases visible_qualify_iff.mp h.named with hPackage | hVisible
      · exact .inr ⟨hPackage, hBlank, hConsistent⟩
      · rw [Text.allBlank_eq_false_iff.mpr hVisible] at hBlank
        cases hBlank
  · rintro (h | h)
    · exact ⟨h.toConsistent.of_eq rfl rfl, visible_qualify_iff.mpr (.inr h.named)⟩
    · exact ⟨h.consistent.of_eq rfl rfl, visible_qualify_iff.mpr (.inl h.packaged)⟩

theorem Covered.valid_inPackage {s : Settings} {t : BoundType} (h : Covered s t) :
    (inPackage s t).Valid :=
  ⟨h.consistent.of_eq rfl rfl, visible_joined s.package t.name⟩

theorem Covered.qualifiedType_eq {s : Settings} {t : BoundType} (h : Covered s t) :
    qualifiedType s t = qualifiedType s (inPackage s t) := by
  have hName : s.qualify t.name = s.qualify (s.package ++ "." ++ t.name) := by
    rw [← Settings.qualify_of_free h.packaged (isQualified_of_allBlank h.blank),
      Settings.qualify_qualify]
  rw [qualifiedType, qualifiedType, hName]
  rfl

namespace Generator

theorem generate_of_fault {g : Generator} {t : BoundType} {fault : ModelFault}
    (h : (qualifiedType g.settings t).check = .error fault) :
    g.generate t = pure (g, .error fault.toError) := by
  rw [generate]
  simp only [BoundType.validate, h, Except.mapError]

theorem generate_congr {g : Generator} {t u : BoundType}
    (h : qualifiedType g.settings t = qualifiedType g.settings u) : g.generate t = g.generate u := by
  rw [generate, generate, h]

theorem exists_classes_of_free {g : Generator} {t : BoundType}
    (hValid : (qualifiedType g.settings t).Valid)
    (hFree : g.emitted? (g.settings.qualify t.name) = none)
    (hRelational : g.settings.generateJdoDescriptors = false)
    (dialog : Option (Dialog σ)) (source : σ) :
    ∃ classes, ((g.generate t).answer dialog source).value.2 = .ok classes := by
  have hClasses := classesOf_eq (BoundType.check_eq_ok_iff.mpr hValid) g.settings
  rw [relationalClasses, hRelational] at hClasses
  rw [answer_generate_of_free rfl hFree]
  exact ⟨_, classesAlone_of_ok hClasses⟩

end Generator

/-- An invalid type is refused as an invalid model, without a question, and leaves the generator as
it was, unless nothing is wrong with it but a blank name that a package comes before. Then it is
taken for the type that has the package before its name, and nothing is wrong with that one: where
its name is free and no relational descriptor is asked for, its classes are generated. -/
theorem invalid_refused_unless_covered (g : Generator) {t : BoundType} {e : BindError}
    (hInvalid : t.validate = .error e) :
    (¬ Covered g.settings t →
      ∃ reason, g.generate t = pure (g, .error (.invalidModel reason))) ∧
    (Covered g.settings t →
      (inPackage g.settings t).validate = .ok () ∧
      g.generate t = g.generate (inPackage g.settings t) ∧
      (g.emitted? (g.settings.package ++ "." ++ t.name) = none →
        g.settings.generateJdoDescriptors = false → ∀ (dialog : Option (Dialog σ)) (source : σ),
        ∃ classes, ((g.generate t).answer dialog source).value.2 = .ok classes)) := by
  have hNotValid : ¬ t.Valid := by
    intro hValid
    rw [BoundType.validate_eq_ok_iff.mpr hValid] at hInvalid
    cases hInvalid
  constructor
  · intro hSeen
    cases hCheck : (qualifiedType g.settings t).check with
    | error fault => exact ⟨fault.message, Generator.generate_of_fault hCheck⟩
    | ok u =>
      rcases valid_qualifiedType_iff.mp (BoundType.check_eq_ok_iff.mp hCheck) with hValid | hCovered
      · exact absurd hValid hNotValid
      · exact absurd hCovered hSeen
  · intro hCovered
    refine ⟨BoundType.validate_eq_ok_iff.mpr hCovered.valid_inPackage,
      Generator.generate_congr hCovered.qualifiedType_eq, ?_⟩
    intro hFree hRelational dialog source
    have hName : g.settings.qualify t.name = g.settings.package ++ "." ++ t.name :=
      Settings.qualify_of_free hCovered.packaged (isQualified_of_allBlank hCovered.blank)
    rw [← hName] at hFree
    exact Generator.exists_classes_of_free (valid_qualifiedType_iff.mpr (.inr hCovered)) hFree
      hRelational dialog source

/-- A blank name alone is covered by a package; a field without a name is not. -/
def unnamed (fields : List BoundField) : BoundType :=
  { BoundType.ofName " " with fields := fields }

theorem invalid_refused_unless_covered_unnamed :
    (∃ reason, (Generator.ofStrategy Settings.packaged .informViaLog).generate
        (unnamed [.single "" .int "Count"]) =
      pure (.ofStrategy Settings.packaged .informViaLog, .error (.invalidModel reason))) ∧
    ∃ classes, (((Generator.ofStrategy Settings.packaged .informViaLog).generate
        (unnamed [])).answer (none : Option (Dialog Unit)) ()).value.2 = .ok classes := by
  have hField : (unnamed [.single "" .int "Count"]).validate =
      .error (.invalidModel "type name cannot be empty") := by decide +kernel
  have hName : (unnamed []).validate = .error (.invalidModel "type name cannot be empty") := by
    decide +kernel
  constructor
  · apply (invalid_refused_unless_covered (σ := Unit)
      (.ofStrategy Settings.packaged .informViaLog) hField).1
    intro hCovered
    exact (hCovered.consistent.fields _ List.mem_cons_self).named rfl
  · have hCovered : Covered Settings.packaged (unnamed []) := by
      refine ⟨by decide, by decide +kernel, ?_⟩
      constructor
      · simp [unnamed]
      · simp [unnamed]
      · simp [unnamed, BoundType.ofName]
    exact ((invalid_refused_unless_covered (.ofStrategy Settings.packaged .informViaLog) hName).2
      hCovered).2.2 rfl rfl none ()

/-- The class of a type whose name is blank is generated into the package. -/
theorem blank_name_generated :
    ¬ ∀ (s : Settings) (strategy : Strategy) (calls : List (Call Unit)) (t : BoundType)
      (e : BindError), s.check = .ok () → t.validate = .error e →
      ∃ reason, (History.after s strategy calls).generator.generate t =
        pure ((History.after s strategy calls).generator, .error (.invalidModel reason)) := by
  intro h
  have hSome : (((Generator.ofStrategy Settings.packaged .informViaLog).generate
      (.ofName "")).answer (none : Option (Dialog Unit)) ()).value.2.toOption.isSome = true := by
    decide +kernel
  have hSettings : Settings.packaged.check = .ok () := by decide +kernel
  have hInvalid : (BoundType.ofName "").validate =
      .error (.invalidModel "type name cannot be empty") := by decide +kernel
  obtain ⟨reason, hRefused⟩ := h Settings.packaged .informViaLog [] (.ofName "") _ hSettings hInvalid
  have hFails := congrArg (fun m => (m.answer (none : Option (Dialog Unit)) ()).value.2) hRefused
  obtain ⟨classes, hOk⟩ := exists_ok_of_isSome hSome
  exact absurd (hOk.symm.trans hFails) (by simp)

end BeanGen.Generation
