import BeanGen.Schema.Validity
import Mathlib.Data.List.Nodup

/-!
# Fields of a valid type

The check goes through the fields one by one, each against those before it. So it passes exactly if
every field passes by itself and no two of them share a name or a property.
-/

namespace BeanGen

open Java

namespace BoundField

/-- The field may stand in a type of the name, whatever other fields there are. -/
structure Sound (type : String) (f : BoundField) : Prop where
  named : f.name ≠ ""
  suffixed : f.suffix ≠ ""
  free : f.property ∉ reservedWords
  defaulted : f.checkDefault type = .ok ()

def Apart (f g : BoundField) : Prop :=
  f.name ≠ g.name ∧ f.property ≠ g.property

theorem check_eq_ok_iff {type : String} {before : List BoundField} {f : BoundField} :
    f.check type before = .ok () ↔ f.Sound type ∧ ∀ g ∈ before, g.Apart f := by
  rw [check]
  constructor
  · intro h
    cases hShared : before.find? (·.property == f.property) with
    | some other =>
      rw [hShared] at h
      split_ifs at h
    | none =>
      rw [hShared] at h
      simp only at h
      split_ifs at h with hNamed hSuffixed hRepeated hReserved
      refine ⟨⟨by simpa using hNamed, by simpa using hSuffixed, by simpa using hReserved, h⟩, ?_⟩
      intro g hg
      exact ⟨fun hEq => hRepeated (List.any_eq_true.mpr ⟨g, hg, beq_iff_eq.mpr hEq⟩),
        by simpa using List.find?_eq_none.mp hShared g hg⟩
  · rintro ⟨hSound, hApart⟩
    have hRepeated : before.any (·.name == f.name) = false := by
      rw [List.any_eq_false]
      intro g hg
      simpa using (hApart g hg).1
    have hShared : before.find? (·.property == f.property) = none := by
      rw [List.find?_eq_none]
      intro g hg
      simpa using (hApart g hg).2
    rw [if_neg (by simpa using hSound.named), if_neg (by simpa using hSound.suffixed), hRepeated,
      if_neg Bool.false_ne_true, hShared]
    simp only
    rw [if_neg (by simpa using hSound.free)]
    exact hSound.defaulted

theorem eq_or_eq_of_stripUnderscore {name property : String}
    (h : stripUnderscore name = property) : name = property ∨ name = "_" ++ property := by
  rw [stripUnderscore] at h
  split at h
  · rename_i rest hChars
    refine .inr (String.toList_inj.mp ?_)
    rw [← h, hChars]
    simp
  · exact .inl h

end BoundField

theorem checkFields_eq_ok_iff {type : String} {before fs : List BoundField} :
    checkFields type before fs = .ok () ↔
      (∀ f ∈ fs, f.Sound type) ∧ fs.Pairwise BoundField.Apart ∧
        ∀ g ∈ before, ∀ f ∈ fs, g.Apart f := by
  induction fs generalizing before with
  | nil => simp [checkFields]
  | cons f fs ih =>
    have hStep : checkFields type before (f :: fs) = .ok () ↔
        f.check type before = .ok () ∧ checkFields type (before ++ [f]) fs = .ok () := by
      rw [checkFields]
      cases f.check type before with
      | error fault => simp [bind, Except.bind]
      | ok u => simp [bind, Except.bind]
    rw [hStep, BoundField.check_eq_ok_iff, ih, List.pairwise_cons]
    simp only [List.mem_append, List.mem_singleton, List.forall_mem_cons]
    constructor
    · rintro ⟨⟨hSound, hBefore⟩, hRest, hPairwise, hApart⟩
      refine ⟨⟨hSound, hRest⟩, ⟨fun g hg => hApart f (.inr rfl) g hg, hPairwise⟩, ?_⟩
      intro g hg
      exact ⟨hBefore g hg, hApart g (.inl hg)⟩
    · rintro ⟨⟨hSound, hRest⟩, ⟨hFirst, hPairwise⟩, hApart⟩
      refine ⟨⟨hSound, fun g hg => (hApart g hg).1⟩, hRest, hPairwise, ?_⟩
      rintro g (hg | rfl) h hh
      · exact (hApart g hg).2 h hh
      · exact hFirst h hh

theorem checkIdentities_eq_ok_iff {type : String} {fields : List BoundField}
    {names : List String} :
    checkIdentities type fields names = .ok () ↔
      ∀ identity ∈ names, ∃ f ∈ fields, f.isNamed identity = true := by
  induction names with
  | nil => simp [checkIdentities]
  | cons identity names ih =>
    rw [checkIdentities, List.forall_mem_cons, ← ih, ← List.any_eq_true]
    split_ifs with hNamed
    · simp [hNamed]
    · simp [hNamed]

namespace BoundType

theorem checks_of_check {t : BoundType} (h : t.check = .ok ()) :
    checkFields t.name [] t.fields = .ok () ∧
      checkIdentities t.name t.fields t.identities = .ok () := by
  rw [check] at h
  split_ifs at h
  cases hFields : checkFields t.name [] t.fields with
  | error fault =>
    rw [hFields] at h
    cases h
  | ok u =>
    rw [hFields] at h
    exact ⟨rfl, h⟩

theorem checkFields_of_check {t : BoundType} (h : t.check = .ok ()) :
    checkFields t.name [] t.fields = .ok () :=
  (checks_of_check h).1

/-- Every identity of a valid type names one of its fields. -/
theorem exists_isNamed_of_check {t : BoundType} (h : t.check = .ok ()) {identity : String}
    (hIdentity : identity ∈ t.identities) : ∃ f ∈ t.fields, f.isNamed identity = true :=
  checkIdentities_eq_ok_iff.mp (checks_of_check h).2 identity hIdentity

theorem pairwise_apart {t : BoundType} (h : t.check = .ok ()) :
    t.fields.Pairwise BoundField.Apart := by
  obtain ⟨-, hPairwise, -⟩ := checkFields_eq_ok_iff.mp (checkFields_of_check h)
  exact hPairwise

theorem nodup_properties {t : BoundType} (h : t.check = .ok ()) :
    (t.fields.map (·.property)).Nodup :=
  List.pairwise_map.mpr ((pairwise_apart h).imp And.right)

theorem eq_of_name_eq {t : BoundType} (h : t.check = .ok ()) {f g : BoundField}
    (hf : f ∈ t.fields) (hg : g ∈ t.fields) (hEq : f.name = g.name) : f = g := by
  have hNodup : (t.fields.map (·.name)).Nodup :=
    List.pairwise_map.mpr ((pairwise_apart h).imp And.left)
  exact List.inj_on_of_nodup_map hNodup hf hg hEq

theorem eq_of_property_eq {t : BoundType} (h : t.check = .ok ()) {f g : BoundField}
    (hf : f ∈ t.fields) (hg : g ∈ t.fields) (hEq : f.property = g.property) : f = g :=
  List.inj_on_of_nodup_map (nodup_properties h) hf hg hEq

end BoundType

end BeanGen
