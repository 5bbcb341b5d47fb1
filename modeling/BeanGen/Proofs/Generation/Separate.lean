import BeanGen.Proofs.Accessor.Body
import BeanGen.Proofs.Accessor.Clash
import BeanGen.Proofs.Generation.BoundClass
import Mathlib.Data.List.Pairwise

/-!
# Types whose accessors stay apart

A valid type may still offer two methods of one signature to its class, and then the class has the
first of them only. `Separate` says of the suffixes and types of the fields that this does not
happen.
-/

namespace BeanGen.Generation

open Accessor Java

/-- Whether the class gets the methods for listeners: a field is bound, and up to it no member has the
name of the one that keeps the listeners. -/
def hasListeners (s : Settings) (t : BoundType) : Bool :=
  ((effectiveFields s t).takeWhile (·.name != ChangeNotice.supportField)).any (·.bound)

/-- The fields of a type have accessors of different signatures. -/
structure Separate (s : Settings) (t : BoundType) : Prop where
  suffixes : ((effectiveFields s t).map (·.suffix)).Nodup
  unshadowed : ∀ f ∈ effectiveFields s t, ∀ g ∈ effectiveFields s t,
    ¬ Shadows (.ofSettings s) f g
  copies : ∀ f ∈ effectiveFields s t, Form.CopiesDiffer (.ofSettings s) f
  listeners : hasListeners s t = true → ∀ f ∈ effectiveFields s t, f.isCollection = true →
    f.suffix = "PropertyChangeListener" →
    (Holding.ofSettings s).valueType f ≠ "PropertyChangeListener"

theorem separate_iff {s : Settings} {t : BoundType} : Separate s t ↔
    ((effectiveFields s t).map (·.suffix)).Nodup ∧
    (∀ f ∈ effectiveFields s t, ∀ g ∈ effectiveFields s t, ¬ Shadows (.ofSettings s) f g) ∧
    (∀ f ∈ effectiveFields s t, Form.CopiesDiffer (.ofSettings s) f) ∧
    (hasListeners s t = true → ∀ f ∈ effectiveFields s t, f.isCollection = true →
      f.suffix = "PropertyChangeListener" →
      (Holding.ofSettings s).valueType f ≠ "PropertyChangeListener") :=
  ⟨fun h => ⟨h.suffixes, h.unshadowed, h.copies, h.listeners⟩,
    fun ⟨hSuffixes, hShadows, hCopies, hListeners⟩ => ⟨hSuffixes, hShadows, hCopies, hListeners⟩⟩

instance (s : Settings) (t : BoundType) : Decidable (Separate s t) :=
  decidable_of_iff _ separate_iff.symm

/-! ## The methods that are offered -/

theorem accessors_eq (s : Settings) (f : BoundField) :
    accessors s f =
      (Form.ofField (.ofSettings s) f).map (Form.method (.ofSettings s) s.arrayMarkers f) := by
  rw [accessors]
  split
  · rename_i hMany
    exact Form.map_collectionSuite _ _ hMany
  · rename_i hSingle
    exact Form.map_scalarSuite _ _ (Bool.eq_false_iff.mpr hSingle)

theorem map_signature_accessors (s : Settings) (f : BoundField) :
    (accessors s f).map (·.signature) =
      (Form.ofField (.ofSettings s) f).map (Form.signature (.ofSettings s) f) := by
  rw [accessors_eq, List.map_map]
  exact List.map_congr_left fun a _ => Form.signature_method _ _ f a

theorem mem_accessors {s : Settings} {f : BoundField} {m : MethodDecl} :
    m ∈ accessors s f ↔ ∃ a : Form, a.isCalledFor (.ofSettings s) f = true ∧
      a.method (.ofSettings s) s.arrayMarkers f = m := by
  rw [accessors_eq, List.mem_map]
  simp only [Form.mem_ofField]

/-- Apart from their place, the methods for listeners are offered beside the accessors. -/
theorem offeredFrom_perm (s : Settings) (present : Bool) (fs : List BoundField) :
    (offeredFrom s present fs).Perm (fs.flatMap (accessors s) ++
      if !present && (fs.takeWhile (·.name != ChangeNotice.supportField)).any (·.bound) then
        ChangeNotice.methods else []) := by
  induction fs generalizing present with
  | nil => simp [offeredFrom]
  | cons f fs ih =>
    rw [offeredFrom, List.flatMap_cons, List.append_assoc, List.append_assoc]
    refine List.Perm.append_left _ ?_
    refine (List.Perm.append_left _ (ih _)).trans ?_
    cases present <;> cases hName : f.name == ChangeNotice.supportField <;>
      cases hBound : f.bound <;> simp [hName, hBound, bne, List.perm_append_comm]

theorem offered_perm (s : Settings) (t : BoundType) :
    (offered s t).Perm ((effectiveFields s t).flatMap (accessors s) ++
      if hasListeners s t then ChangeNotice.methods else []) := by
  have hPerm := offeredFrom_perm s false (effectiveFields s t)
  rwa [Bool.not_false, Bool.true_and] at hPerm

/-- What is offered is an accessor of a field or a method for listeners. -/
theorem offered_cases {s : Settings} {t : BoundType} {m : MethodDecl} (h : m ∈ offered s t) :
    (∃ f ∈ effectiveFields s t, ∃ a : Form, a.isCalledFor (.ofSettings s) f = true ∧
      a.method (.ofSettings s) s.arrayMarkers f = m) ∨ m ∈ ChangeNotice.methods := by
  rcases List.mem_append.mp ((offered_perm s t).mem_iff.mp h) with hOwn | hListeners
  · obtain ⟨f, hField, hMem⟩ := List.mem_flatMap.mp hOwn
    exact .inl ⟨f, hField, mem_accessors.mp hMem⟩
  · split at hListeners
    · exact .inr hListeners
    · cases hListeners

/-! ## Their signatures -/

def fieldSignatures (s : Settings) (f : BoundField) : List String :=
  (Form.ofField (.ofSettings s) f).map (Form.signature (.ofSettings s) f)

theorem mem_fieldSignatures {s : Settings} {f : BoundField} {a : Form}
    (hA : a.isCalledFor (.ofSettings s) f = true) :
    a.signature (.ofSettings s) f ∈ fieldSignatures s f :=
  List.mem_map.mpr ⟨a, Form.mem_ofField.mpr hA, rfl⟩

theorem exists_form_of_mem {s : Settings} {f : BoundField} {text : String}
    (h : text ∈ fieldSignatures s f) : ∃ a : Form, a.isCalledFor (.ofSettings s) f = true ∧
      a.signature (.ofSettings s) f = text := by
  obtain ⟨a, hA, hEq⟩ := List.mem_map.mp h
  exact ⟨a, Form.mem_ofField.mp hA, hEq⟩

theorem nodup_offered_iff (s : Settings) (t : BoundType) :
    ((offered s t).map (·.signature)).Nodup ↔
      (∀ f ∈ effectiveFields s t, (fieldSignatures s f).Nodup) ∧
      (effectiveFields s t).Pairwise
        (fun f g => List.Disjoint (fieldSignatures s f) (fieldSignatures s g)) ∧
      (hasListeners s t = true → ∀ f ∈ effectiveFields s t,
        List.Disjoint (fieldSignatures s f) (ChangeNotice.methods.map (·.signature))) := by
  have hMap : ∀ f, (accessors s f).map (·.signature) = fieldSignatures s f :=
    map_signature_accessors s
  have hOwn : (ChangeNotice.methods.map (·.signature)).Nodup := by decide
  rw [((offered_perm s t).map _).nodup_iff, List.map_append, List.map_flatMap]
  simp only [hMap]
  rw [List.nodup_append', List.nodup_flatMap, and_assoc]
  refine and_congr_right fun _ => and_congr_right fun _ => ?_
  cases hasListeners s t with
  | false => simp
  | true =>
    rw [if_pos rfl, and_iff_right hOwn]
    constructor
    · intro hDisjoint _ f hf text hText
      exact hDisjoint (List.mem_flatMap.mpr ⟨f, hf, hText⟩)
    · intro hDisjoint text hText
      obtain ⟨f, hf, hText⟩ := List.mem_flatMap.mp hText
      exact hDisjoint rfl f hf hText

theorem ne_of_shadows {h : Holding} {f g : BoundField} (hShadows : Shadows h f g) : f ≠ g := by
  rintro rfl
  obtain ⟨-, hSuffix | ⟨-, hSuffix⟩ | ⟨-, -, -, hSuffix⟩ | ⟨-, -, hSuffix⟩⟩ := hShadows
  all_goals
    have hLength := congrArg String.length hSuffix
    simp at hLength

theorem separate_of_nodup {s : Settings} {t : BoundType}
    (h : ((offered s t).map (·.signature)).Nodup) : Separate s t := by
  obtain ⟨hOwn, hApart, hListeners⟩ := (nodup_offered_iff s t).mp h
  have hSymm : Std.Symm fun f g => List.Disjoint (fieldSignatures s f) (fieldSignatures s g) :=
    ⟨fun _ _ => List.disjoint_symm⟩
  constructor
  · refine List.pairwise_map.mpr (hApart.imp ?_)
    intro f g hDisjoint hSuffix
    have hReader := mem_fieldSignatures (Form.isCalledFor_reader (.ofSettings s) g)
    rw [← Form.signature_reader_eq _ hSuffix] at hReader
    exact hDisjoint (mem_fieldSignatures (Form.isCalledFor_reader _ f)) hReader
  · intro f hf g hg hShadows
    obtain ⟨a, b, hA, hB, hEq⟩ := Form.exists_signature_eq_of_shadows hShadows
    have hDisjoint := hApart.forall hf hg (ne_of_shadows hShadows)
    exact hDisjoint (mem_fieldSignatures hA) (hEq ▸ mem_fieldSignatures hB)
  · intro f hf
    apply Form.copiesDiffer_of_injective
    intro a b hA hB hEq
    exact List.inj_on_of_nodup_map (hOwn f hf) (Form.mem_ofField.mpr hA)
      (Form.mem_ofField.mpr hB) hEq
  · intro hHas f hf hMany hSuffix hValue
    have hAdd : Form.add.isCalledFor (.ofSettings s) f = true := hMany
    have hRegister : ChangeNotice.register.signature ∈
        ChangeNotice.methods.map (·.signature) := by decide
    rw [← Form.add_eq_register hSuffix hValue] at hRegister
    exact hListeners hHas f hf (mem_fieldSignatures hAdd) hRegister

theorem nodup_of_separate {s : Settings} {t : BoundType}
    (hSuffixes : ∀ f ∈ t.fields, Unbracketed f.suffix) (h : Separate s t) :
    ((offered s t).map (·.signature)).Nodup := by
  have hText : ∀ f ∈ effectiveFields s t, Unbracketed f.suffix := by
    intro f hf
    obtain ⟨original, hOriginal, rfl⟩ := List.mem_map.mp hf
    exact hSuffixes original hOriginal
  refine (nodup_offered_iff s t).mpr ⟨?_, ?_, ?_⟩
  · intro f hf
    refine (Form.nodup_ofField _ f).map_on ?_
    intro a hA b hB hEq
    exact Form.eq_of_signature_eq (h.copies f hf) (Form.mem_ofField.mp hA) (Form.mem_ofField.mp hB) hEq
  · refine (List.pairwise_map.mp h.suffixes).imp_of_mem ?_
    intro f g hf hg hNe text hF hG
    obtain ⟨a, hA, rfl⟩ := exists_form_of_mem hF
    obtain ⟨b, hB, hEq⟩ := exists_form_of_mem hG
    rcases Form.shadows_of_signature_eq (hText f hf) (hText g hg) hA hB hEq.symm with
      hSame | hShadows | hShadows
    · exact hNe hSame
    · exact h.unshadowed f hf g hg hShadows
    · exact h.unshadowed g hg f hf hShadows
  · intro hHas f hf text hF hMethod
    obtain ⟨a, hA, rfl⟩ := exists_form_of_mem hF
    obtain ⟨hMany, hSuffix, hValue⟩ := Form.listener_of_signature_mem (hText f hf) hA hMethod
    exact h.listeners hHas f hf hMany hSuffix hValue

end BeanGen.Generation
