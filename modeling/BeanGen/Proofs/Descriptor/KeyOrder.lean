import BeanGen.Proofs.Descriptor.Identities

/-!
# Identities in the order of the key

Every identity of a valid type stands for a field, the first one that it names. A relational
descriptor is refused for the first identity whose field has no column. Otherwise it lists the
fields of the identities in the order of the key, each where it is mentioned first.
-/

namespace BeanGen

theorem BoundField.isMapped_eq_false_iff {f : BoundField} :
    f.isMapped = false ↔ f.isCollection = true ∨ ∃ className, f.content = .bound className := by
  cases hMultiplicity : f.multiplicity <;> cases hContent : f.content <;>
    simp [isMapped, isCollection, hMultiplicity, hContent]

/-- First mentions are kept by a function that tells the members of the list apart. -/
theorem map_eraseDups {α β : Type} [BEq α] [LawfulBEq α] [BEq β] [LawfulBEq β] {f : α → β}
    (xs : List α) (hApart : ∀ x ∈ xs, ∀ y ∈ xs, f x = f y → x = y) :
    xs.eraseDups.map f = (xs.map f).eraseDups := by
  match xs with
  | [] => rfl
  | x :: xs =>
    have hRest : (xs.map f).filter (!· == f x) = (xs.filter (!· == x)).map f := by
      rw [List.filter_map]
      refine congrArg (List.map f) (List.filter_congr fun y hy => ?_)
      have hSame : (f y == f x) = (y == x) := by
        rw [Bool.eq_iff_iff, beq_iff_eq, beq_iff_eq]
        exact ⟨hApart y (List.mem_cons_of_mem x hy) x List.mem_cons_self, congrArg f⟩
      exact congrArg (!·) hSame
    rw [List.eraseDups_cons, List.map_cons, List.map_cons, List.eraseDups_cons, hRest,
      map_eraseDups (xs.filter (!· == x))]
    intro y hy z hz
    exact hApart y (List.mem_cons_of_mem x (List.mem_filter.mp hy).1) z
      (List.mem_cons_of_mem x (List.mem_filter.mp hz).1)
termination_by xs.length
decreasing_by exact Nat.lt_succ_of_le (List.length_filter_le _ _)

namespace Descriptor.Relational

open Java

/-- The fields that some identities stand for, in their order. -/
def keyFields (b : Binding) (names : List String) : List BoundField :=
  names.filterMap fun identity => b.fields.find? (·.isNamed identity)

section Binding

variable {b : Binding} {known names : List String} {identity : String} {f : BoundField}

theorem keyFields_cons (hStands : StandsFor b identity f) :
    keyFields b (identity :: names) = f :: keyFields b names := by
  rw [StandsFor] at hStands
  rw [keyFields, List.filterMap_cons, hStands]
  rfl

/-- An identity of a mapped field adds the name of the field, unless it is known. -/
theorem identitiesAfter_cons_of_mapped (hStands : StandsFor b identity f)
    (hMapped : f.isMapped = true) :
    identitiesAfter b known (identity :: names) =
      identitiesAfter b (if known.contains f.property then known else known ++ [f.property])
        names := by
  rw [StandsFor] at hStands
  rw [identitiesAfter, hStands]
  simp only [hMapped, Bool.not_true, Bool.false_eq_true, if_false]
  split <;> rfl

theorem identitiesAfter_of_mapped
    (h : ∀ identity ∈ names, ∃ f, StandsFor b identity f ∧ f.isMapped = true) :
    identitiesAfter b known names = .ok (known ++
      (((keyFields b names).map (·.property)).filter (!known.contains ·)).eraseDups) := by
  induction names generalizing known with
  | nil => simp [identitiesAfter, keyFields]
  | cons identity names ih =>
    obtain ⟨⟨f, hStands, hMapped⟩, hRest⟩ := List.forall_mem_cons.mp h
    rw [identitiesAfter_cons_of_mapped hStands hMapped, ih hRest, keyFields_cons hStands,
      List.map_cons, List.filter_cons]
    cases hKnown : known.contains f.property with
    | true => rfl
    | false =>
      simp only [Bool.false_eq_true, if_false, Bool.not_false, if_true, List.eraseDups_cons,
        List.filter_filter, List.append_assoc, List.singleton_append]
      simp only [List.contains_append, List.contains_cons, List.contains_nil, Bool.or_false,
        Bool.not_or, Bool.and_comm]

/-- The first identity that stands for a field without a column is the one that is reported. -/
theorem identitiesAfter_of_unmapped {before after : List String}
    (hBefore : ∀ other ∈ before, ∃ g, StandsFor b other g ∧ g.isMapped = true)
    (hStands : StandsFor b identity f) (hUnmapped : f.isMapped = false) :
    identitiesAfter b known (before ++ identity :: after) =
      .error (.unmappedIdentity identity b.boundClass) := by
  induction before generalizing known with
  | nil =>
    rw [StandsFor] at hStands
    rw [List.nil_append, identitiesAfter, hStands]
    simp only [hUnmapped, Bool.not_false, if_true]
  | cons other before ih =>
    obtain ⟨⟨g, hFirst, hMapped⟩, hRest⟩ := List.forall_mem_cons.mp hBefore
    rw [List.cons_append, identitiesAfter_cons_of_mapped hFirst hMapped]
    exact ih hRest

end Binding

/-- The first field that the identity names is a collection or holds an object of a bound class. -/
def StandsForUnmapped (b : Binding) (identity : String) : Prop :=
  ∃ f, StandsFor b identity f ∧ (f.isCollection = true ∨ ∃ className, f.content = .bound className)

theorem standsForUnmapped_iff {b : Binding} {identity : String} :
    StandsForUnmapped b identity ↔ ∃ f, StandsFor b identity f ∧ f.isMapped = false :=
  exists_congr fun _ => and_congr_right' BoundField.isMapped_eq_false_iff.symm

theorem describe_of_fault {t : BoundType} {fault : ModelFault}
    (hFault : identities t.binding = .error fault) (s : Settings) (name : String) :
    describe s name t = .error fault := by
  rw [describe, hFault]
  rfl

section Valid

variable {t : BoundType}

theorem exists_standsFor_of_check (hCheck : t.check = .ok ()) {identity : String}
    (hIdentity : identity ∈ t.identities) : ∃ f, StandsFor t.binding identity f := by
  obtain ⟨f, hf, hNamed⟩ := BoundType.exists_isNamed_of_check hCheck hIdentity
  exact Option.isSome_iff_exists.mp (List.find?_isSome.mpr ⟨f, hf, hNamed⟩)

theorem exists_mapped_of_check (hCheck : t.check = .ok ()) {identity : String}
    (hIdentity : identity ∈ t.identities) (hNot : ¬ StandsForUnmapped t.binding identity) :
    ∃ f, StandsFor t.binding identity f ∧ f.isMapped = true := by
  obtain ⟨f, hStands⟩ := exists_standsFor_of_check hCheck hIdentity
  refine ⟨f, hStands, ?_⟩
  rw [← Bool.not_eq_false]
  intro hUnmapped
  exact hNot (standsForUnmapped_iff.mpr ⟨f, hStands, hUnmapped⟩)

theorem mem_fields_of_mem_keyFields {f : BoundField}
    (h : f ∈ keyFields t.binding t.identities) : f ∈ t.fields := by
  obtain ⟨identity, -, hStands⟩ := List.mem_filterMap.mp h
  exact StandsFor.mem (b := t.binding) hStands

/-- Without a fault the identities are the names of the fields they stand for, in the order of the
key, each field where it is mentioned first. -/
theorem identities_of_check (hCheck : t.check = .ok ())
    (hNone : ∀ identity ∈ t.identities, ¬ StandsForUnmapped t.binding identity) :
    identities t.binding =
      .ok ((keyFields t.binding t.identities).eraseDups.map (·.property)) := by
  have hKeys : identities t.binding =
      .ok ([] ++ (((keyFields t.binding t.identities).map (·.property)).filter
        (!([] : List String).contains ·)).eraseDups) :=
    identitiesAfter_of_mapped fun identity hIdentity =>
      exists_mapped_of_check hCheck hIdentity (hNone identity hIdentity)
  have hApart : ∀ f ∈ keyFields t.binding t.identities, ∀ g ∈ keyFields t.binding t.identities,
      f.property = g.property → f = g :=
    fun f hf g hg => BoundType.eq_of_property_eq hCheck (mem_fields_of_mem_keyFields hf)
      (mem_fields_of_mem_keyFields hg)
  rw [hKeys, map_eraseDups _ hApart]
  simp

end Valid

/-- The line that lists the identities, if the key is of these fields. -/
def identitiesLine (keys : List BoundField) : Line :=
  line ("setIdentities(new FieldDescriptor[] \x7b" ++
    String.intercalate "," (keys.map fun f => f.property ++ "FieldDescr") ++ "\x7d);")

theorem exists_before_identitiesLine (s : Settings) (b : Binding) (keys : List BoundField) :
    ∃ before, constructorLines s b (keys.map (·.property)) = before ++ [identitiesLine keys] := by
  have hList : descriptorList (keys.map (·.property)) =
      String.intercalate "," (keys.map fun f => f.property ++ "FieldDescr") := by
    rw [descriptorList, List.map_map]
    rfl
  rw [constructorLines, closingLines, hList]
  exact ⟨_, (List.append_assoc _ [_, _] [_]).symm⟩

/-- A descriptor is refused exactly if an identity stands for a field without a column, and then for
the first such identity. Otherwise it ends with the fields of the key, each where it is mentioned
first. -/
theorem refused_for_first_unmapped_or_lists_key {s : Settings} {name : String} {t : BoundType}
    (hCheck : t.check = .ok ()) :
    ((∃ fault, describe s name t = .error fault) ↔
        ∃ identity ∈ t.identities, StandsForUnmapped t.binding identity) ∧
      (∀ before identity after, t.identities = before ++ identity :: after →
        (∀ other ∈ before, ¬ StandsForUnmapped t.binding other) →
        StandsForUnmapped t.binding identity →
        (describe s name t).mapError ModelFault.toError = .error (.invalidModel
          ("identity '" ++ identity ++ "' of '" ++ t.name ++ "' has no column mapping"))) ∧
      ((∀ identity ∈ t.identities, ¬ StandsForUnmapped t.binding identity) →
        ∃ d before, describe s name t = .ok d ∧
          Descriptor.constructorLines d =
            before ++ [identitiesLine (keyFields t.binding t.identities).eraseDups]) := by
  refine ⟨⟨?_, ?_⟩, ?_, ?_⟩
  · rintro ⟨fault, hFault⟩
    by_contra hNone
    push Not at hNone
    rw [describe_of_identities (identities_of_check hCheck hNone)] at hFault
    cases hFault
  · rintro ⟨identity, hIdentity, hUnmapped⟩
    obtain ⟨f, hStands, hUnmapped⟩ := standsForUnmapped_iff.mp hUnmapped
    cases hKeys : identities t.binding with
    | error fault => exact ⟨fault, describe_of_fault hKeys s name⟩
    | ok keys =>
      obtain ⟨hStand, -, -⟩ := identitiesAfter_eq_ok hKeys
      obtain ⟨g, hFirst, hMapped⟩ := hStand identity hIdentity
      obtain rfl : g = f := Option.some.inj (hFirst.symm.trans hStands)
      rw [hUnmapped] at hMapped
      cases hMapped
  · intro before identity after hSplit hBefore hUnmapped
    obtain ⟨f, hStands, hUnmapped⟩ := standsForUnmapped_iff.mp hUnmapped
    have hFirst : ∀ other ∈ before, ∃ g, StandsFor t.binding other g ∧ g.isMapped = true := by
      intro other hOther
      have hMem : other ∈ t.identities := hSplit ▸ List.mem_append_left _ hOther
      exact exists_mapped_of_check hCheck hMem (hBefore other hOther)
    have hFault : identities t.binding = .error (.unmappedIdentity identity t.name) := by
      rw [identities, show t.binding.identities = _ from hSplit]
      exact identitiesAfter_of_unmapped hFirst hStands hUnmapped
    rw [describe_of_fault hFault]
    rfl
  · intro hNone
    obtain ⟨before, hLines⟩ := exists_before_identitiesLine s t.binding
      (keyFields t.binding t.identities).eraseDups
    refine ⟨_, before, describe_of_identities (identities_of_check hCheck hNone) s name, ?_⟩
    rw [constructorLines_relational, hLines]

/-- A key that mentions the outer number in both spellings lists it once. -/
theorem number_listed_once :
    (numberedOrder ["number", "_number", "placed"]).check = .ok () ∧
      ∃ d before,
        describe .standard "OrderJDODescriptor" (numberedOrder ["number", "_number", "placed"]) =
          .ok d ∧
        Descriptor.constructorLines d = before ++ [line
          "setIdentities(new FieldDescriptor[] \x7bnumberFieldDescr,placedFieldDescr\x7d);"] := by
  have hCheck : (numberedOrder ["number", "_number", "placed"]).check = .ok () := by decide
  have hLine : identitiesLine (keyFields (numberedOrder ["number", "_number", "placed"]).binding
      ["number", "_number", "placed"]).eraseDups =
      line "setIdentities(new FieldDescriptor[] \x7bnumberFieldDescr,placedFieldDescr\x7d);" := by
    decide
  obtain ⟨-, -, hListed⟩ :=
    @refused_for_first_unmapped_or_lists_key .standard "OrderJDODescriptor" _ hCheck
  have hMapped : ∀ f ∈ (numberedOrder ["number", "_number", "placed"]).fields,
      f.isMapped = true := by
    decide
  obtain ⟨d, before, hDescribe, hLines⟩ := hListed fun identity _ hUnmapped => by
    obtain ⟨f, hStands, hUnmapped⟩ := standsForUnmapped_iff.mp hUnmapped
    exact Bool.false_ne_true (hUnmapped.symm.trans (hMapped f hStands.mem))
  exact ⟨hCheck, d, before, hDescribe, hLines.trans (congrArg (before ++ [·]) hLine)⟩

end Descriptor.Relational

end BeanGen
