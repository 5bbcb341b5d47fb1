import BeanGen.Proofs.Java.Constant
import BeanGen.Proofs.Schema.Acceptance

/-!
# Defaults of accepted types

A default is written as a constant of the type of its field. What that constant denotes can be read
off the default: a numeral denotes a number of the type, the two words denote the truth values, and
a character denotes itself if it is one unit wide. The check asks only that a date has no default
and that the default of a character is one character. So a type is also accepted with a default that
is no constant of its type at all.
-/

namespace BeanGen

open Java

/-- The type with other defaults for its fields. -/
def BoundType.withDefaults (t : BoundType) (defaults : BoundField → Option String) : BoundType :=
  { t with fields := t.fields.map fun f => { f with defaultValue := defaults f } }

namespace BoundField

/-- Of what is asked of a field, only one thing is about its default. -/
theorem Acceptable.withDefault_iff {f : BoundField} (h : f.Acceptable) (default : Option String) :
    { f with defaultValue := default }.Acceptable ↔
      { f with defaultValue := default }.DefaultFits := by
  constructor
  · exact Acceptable.defaulted
  · intro hFits
    exact ⟨h.named, h.suffixed, h.unreserved, hFits⟩

end BoundField

theorem BoundType.Valid.withDefaults_iff {t : BoundType} (h : t.Valid)
    (defaults : BoundField → Option String) :
    (t.withDefaults defaults).Valid ↔
      ∀ f ∈ t.fields, { f with defaultValue := defaults f }.DefaultFits := by
  constructor
  · intro hValid f hField
    exact (hValid.fields _ (List.mem_map_of_mem hField)).defaulted
  · intro hFits
    refine ⟨⟨?_, ?_, ?_⟩, h.named⟩
    · refine List.forall_mem_map.mpr fun f hField => ?_
      exact ((h.fields f hField).withDefault_iff _).mpr (hFits f hField)
    · have hProperties : (t.withDefaults defaults).fields.map (·.property) =
          t.fields.map (·.property) := by
        rw [withDefaults, List.map_map]
        rfl
      rw [hProperties]
      exact h.distinct
    · intro identity hIdentity
      obtain ⟨f, hField, hNamed⟩ := h.identities identity hIdentity
      exact ⟨_, List.mem_map_of_mem hField, hNamed⟩

/-- In an accepted type a default of a primitive type denotes what it spells, and nothing if it
spells nothing. The type is accepted with other defaults as well, whatever they spell, if no date
has one and each of a character is one character. -/
theorem defaults_denote {t : BoundType} (hValid : t.validate = .ok ()) :
    (∀ f ∈ t.fields, ∀ value, f.effectiveDefault? = some value →
      f.valueType.isPrimitive = true →
        constant? f.content (f.valueType.literal value) = spelled? f.content value) ∧
    ∀ defaults : BoundField → Option String, (t.withDefaults defaults).validate = .ok () ↔
      ∀ f ∈ t.fields, { f with defaultValue := defaults f }.DefaultFits := by
  have hAll := BoundType.validate_eq_ok_iff.mp hValid
  constructor
  · intro f hField value hDefault hPrimitive
    obtain ⟨hValue, hSome⟩ := BoundField.effectiveDefault?_eq_some_iff.mp hDefault
    have hFits := (hAll.fields f hField).defaulted value hValue hSome
    exact constant?_literal hPrimitive hFits.2
  · intro defaults
    rw [BoundType.validate_eq_ok_iff]
    exact hAll.withDefaults_iff defaults

/-- A number below zero, a real number and a character that a literal has to escape. -/
def measured : BoundType :=
  { BoundType.ofName "Measure" with
    fields := [
      { BoundField.single "offset" .byte "Offset" with defaultValue := some "-5" },
      { BoundField.single "factor" .float "Factor" with defaultValue := some "1.5" },
      { BoundField.single "mark" .char "Mark" with defaultValue := some "'" }] }

theorem defaults_denote_measured :
    constant? .byte "(byte) -5" = some (.integer (-5)) ∧
      constant? .float "1.5f" = some (.real (mkRat 3 2)) ∧
      constant? .char "'\\''" = some (.unit 39) ∧
      (measured.withDefaults fun _ => some "x").validate = .ok () := by
  obtain ⟨hDenote, hOther⟩ := defaults_denote (show measured.validate = .ok () by decide +kernel)
  have hByte := hDenote _ (.head _) "-5" rfl rfl
  have hFloat := hDenote _ (.tail _ (.head _)) "1.5" rfl rfl
  have hMark := hDenote _ (.tail _ (.tail _ (.head _))) "'" rfl rfl
  have hNumber : readable "-5" = "-5".toList := readable_of_raw (by decide)
  have hReal : readable "1.5" = "1.5".toList := readable_of_raw (by decide)
  simp only [spelled?, hNumber] at hByte
  simp only [spelled?, hReal] at hFloat
  refine ⟨hByte.trans (by decide +kernel), hFloat.trans (by decide +kernel), hMark.trans rfl, ?_⟩
  have hNoDate : ∀ f ∈ measured.fields, f.content ≠ .date := by decide
  apply (hOther _).mpr
  intro f hField value hValue _
  cases hValue
  exact ⟨hNoDate f hField, fun _ => rfl⟩

/-- A word as the default of a number. -/
def countedByWord : BoundType :=
  { BoundType.ofName "Order" with
    fields := [{ BoundField.single "count" .int "Count" with defaultValue := some "abc" }] }

/-- The type is accepted, and the constant is none. -/
theorem word_taken_for_number :
    countedByWord.validate = .ok () ∧
      ∃ f ∈ countedByWord.fields, ∃ value, f.effectiveDefault? = some value ∧
        f.valueType.isPrimitive = true ∧
        constant? f.content (f.valueType.literal value) = none := by
  have hRead : readable "abc" = "abc".toList := readable_of_raw (by decide)
  have hNone : constant? .int "abc" = none := by
    simp only [constant?, hRead]
    decide
  exact ⟨by decide +kernel, _, .head _, "abc", rfl, rfl, hNone⟩

end BeanGen
