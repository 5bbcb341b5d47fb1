import BeanGen.Proofs.Schema.Validity

/-!
# Which types are accepted

A type is accepted if its name is not blank and its fields and identities are consistent. What
consistency asks of a field concerns the field alone, but for one thing: no two fields share a
property. The check also compares the names of fields, which adds nothing, since fields of one name
have one property. So the order of the fields does not matter, nor that of the identities.
-/

namespace BeanGen

open Java

theorem Text.allBlank_eq_false_iff {text : String} :
    allBlank text = false ↔ ∃ c ∈ text.toList, isBlank c = false := by
  rw [allBlank, List.all_eq_false]
  simp only [Bool.not_eq_true]

namespace BoundField

/-- The default can be written for the kind of value: a date has none, and that of a character is
one character. -/
def DefaultFits (f : BoundField) : Prop :=
  ∀ value, f.defaultValue = some value → value ≠ "" →
    f.content ≠ .date ∧ (f.content = .char → value.length = 1)

theorem effectiveDefault?_eq_some_iff {f : BoundField} {value : String} :
    f.effectiveDefault? = some value ↔ f.defaultValue = some value ∧ value ≠ "" := by
  simp [effectiveDefault?, Option.filter_eq_some_iff]

theorem checkDefault_eq_ok_iff {type : String} {f : BoundField} :
    f.checkDefault type = .ok () ↔ f.DefaultFits := by
  have hFits : f.DefaultFits ↔ ∀ value, f.effectiveDefault? = some value →
      f.content ≠ .date ∧ (f.content = .char → value.length = 1) := by
    simp only [DefaultFits, effectiveDefault?_eq_some_iff, and_imp]
  rw [hFits, checkDefault]
  cases f.effectiveDefault? with
  | none => simp
  | some value => cases hContent : f.content <;> simp

/-- What is asked of a field by itself. -/
structure Acceptable (f : BoundField) : Prop where
  named : f.name ≠ ""
  suffixed : f.suffix ≠ ""
  unreserved : f.property ∉ reservedWords
  defaulted : f.DefaultFits

theorem sound_iff {type : String} {f : BoundField} : f.Sound type ↔ f.Acceptable := by
  constructor
  · intro h
    exact ⟨h.named, h.suffixed, h.free, checkDefault_eq_ok_iff.mp h.defaulted⟩
  · intro h
    exact ⟨h.named, h.suffixed, h.unreserved, checkDefault_eq_ok_iff.mpr h.defaulted⟩

theorem apart_iff {f g : BoundField} : f.Apart g ↔ f.property ≠ g.property := by
  constructor
  · exact And.right
  · intro hProperty
    refine ⟨?_, hProperty⟩
    intro hName
    exact hProperty (congrArg stripUnderscore hName)

end BoundField

namespace BoundType

/-- What is asked of the fields and identities of a type, whatever its name. -/
structure Consistent (t : BoundType) : Prop where
  fields : ∀ f ∈ t.fields, f.Acceptable
  distinct : (t.fields.map (·.property)).Nodup
  identities : ∀ identity ∈ t.identities, ∃ f ∈ t.fields, f.name = identity ∨ f.property = identity

structure Valid (t : BoundType) : Prop extends Consistent t where
  named : ∃ c ∈ t.name.toList, Text.isBlank c = false

/-- Consistency is a matter of the fields and the identities. -/
theorem Consistent.of_eq {t u : BoundType} (h : t.Consistent) (hFields : u.fields = t.fields)
    (hIdentities : u.identities = t.identities) : u.Consistent := by
  constructor
  · rw [hFields]
    exact h.fields
  · rw [hFields]
    exact h.distinct
  · rw [hFields, hIdentities]
    exact h.identities

theorem Consistent.of_perm {t u : BoundType} (h : t.Consistent) (hFields : t.fields.Perm u.fields)
    (hIdentities : t.identities.Perm u.identities) : u.Consistent := by
  constructor
  · intro f hf
    exact h.fields f (hFields.mem_iff.mpr hf)
  · exact (hFields.map (·.property)).nodup_iff.mp h.distinct
  · intro identity hIdentity
    obtain ⟨f, hf, hNamed⟩ := h.identities identity (hIdentities.mem_iff.mpr hIdentity)
    exact ⟨f, hFields.mem_iff.mp hf, hNamed⟩

theorem consistent_iff {type : String} {t : BoundType} :
    t.Consistent ↔ checkFields type [] t.fields = .ok () ∧
      checkIdentities type t.fields t.identities = .ok () := by
  have hApart : t.fields.Pairwise BoundField.Apart ↔ (t.fields.map (·.property)).Nodup := by
    rw [List.Nodup, List.pairwise_map]
    constructor
    · exact List.Pairwise.imp BoundField.apart_iff.mp
    · exact List.Pairwise.imp BoundField.apart_iff.mpr
  have hNamed (f : BoundField) (identity : String) :
      f.isNamed identity = true ↔ f.name = identity ∨ f.property = identity := by
    simp [BoundField.isNamed]
  rw [checkFields_eq_ok_iff, checkIdentities_eq_ok_iff, hApart]
  simp only [BoundField.sound_iff, hNamed]
  constructor
  · intro h
    exact ⟨⟨h.fields, h.distinct, by simp⟩, h.identities⟩
  · rintro ⟨⟨hFields, hDistinct, -⟩, hIdentities⟩
    exact ⟨hFields, hDistinct, hIdentities⟩

theorem check_eq_ok_iff {t : BoundType} : t.check = .ok () ↔ t.Valid := by
  constructor
  · intro h
    refine ⟨consistent_iff.mpr (checks_of_check h), ?_⟩
    rw [← Text.allBlank_eq_false_iff]
    rw [check] at h
    split at h
    · cases h
    · rename_i hNamed
      rwa [Bool.not_eq_true] at hNamed
  · intro h
    obtain ⟨hFields, hIdentities⟩ := consistent_iff.mp h.toConsistent
    rw [check, Text.allBlank_eq_false_iff.mpr h.named, hFields]
    exact hIdentities

theorem validate_eq_ok_iff {t : BoundType} : t.validate = .ok () ↔ t.Valid := by
  rw [← check_eq_ok_iff, validate]
  cases t.check with
  | error fault => simp [Except.mapError]
  | ok u => simp [Except.mapError]

theorem exists_fault_of_validate {t : BoundType} {e : BindError} (h : t.validate = .error e) :
    ∃ fault : ModelFault, t.check = .error fault ∧ e = .invalidModel fault.message := by
  rw [validate] at h
  cases hCheck : t.check with
  | error fault =>
    rw [hCheck] at h
    cases h
    exact ⟨fault, rfl, rfl⟩
  | ok u =>
    rw [hCheck] at h
    cases h

theorem Valid.of_perm {t u : BoundType} (h : t.Valid) (hName : u.name = t.name)
    (hFields : t.fields.Perm u.fields) (hIdentities : t.identities.Perm u.identities) :
    u.Valid := by
  refine ⟨h.toConsistent.of_perm hFields hIdentities, ?_⟩
  rw [hName]
  exact h.named

end BoundType

/-- The check accepts exactly the valid types, in whatever order the fields and the identities come.
Whatever it refuses is an invalid model. -/
theorem accepts_exactly_valid (t : BoundType) :
    (t.validate = .ok () ↔ t.Valid) ∧
    (∀ fields identities, t.fields.Perm fields → t.identities.Perm identities →
      ({ t with fields := fields, identities := identities }.validate = .ok () ↔
        t.validate = .ok ())) ∧
    ∀ e, t.validate = .error e → ∃ reason, e = .invalidModel reason := by
  refine ⟨BoundType.validate_eq_ok_iff, ?_, ?_⟩
  · intro fields identities hFields hIdentities
    rw [BoundType.validate_eq_ok_iff, BoundType.validate_eq_ok_iff]
    constructor
    · intro h
      exact h.of_perm rfl hFields.symm hIdentities.symm
    · intro h
      exact h.of_perm rfl hFields hIdentities
  · intro e h
    obtain ⟨fault, -, rfl⟩ := BoundType.exists_fault_of_validate h
    exact ⟨fault.message, rfl⟩

/-- Two fields whose names differ by an underscore, a default of one character, and identities by
member name and by property name. -/
def ticket : BoundType :=
  { BoundType.ofName "Ticket" with
    identities := ["row", "_seat"]
    fields := [.single "_row" .int "Row", .single "_seat" .int "Seat",
      { BoundField.single "__row" .char "Mark" with defaultValue := some "A" }] }

theorem accepts_exactly_valid_ticket :
    ticket.Valid ∧
      { ticket with fields := ticket.fields.reverse,
                    identities := ticket.identities.reverse }.validate = .ok () ∧
      ¬ { ticket with identities := ["column"] }.Valid := by
  obtain ⟨hValid, hOrder, -⟩ := accepts_exactly_valid ticket
  have hAccepted : ticket.validate = .ok () := by decide +kernel
  refine ⟨hValid.mp hAccepted, ?_, ?_⟩
  · apply (hOrder _ _ (List.reverse_perm _).symm (List.reverse_perm _).symm).mpr
    exact hAccepted
  · intro hColumn
    have hRefused := (accepts_exactly_valid { ticket with identities := ["column"] }).1.mpr hColumn
    exact absurd hRefused (by decide +kernel)

end BeanGen
