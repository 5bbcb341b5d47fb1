import BeanGen.Proofs.Descriptor.Calls
import BeanGen.Proofs.Schema.Validity
import BeanGen.Proofs.Text.Affix
import Mathlib.Data.List.Perm.Basic

/-!
# Identities and other mapped fields

Whether a field is marked as an identity and whether it is listed among the identities are decided
in two ways: it is marked if any identity names it, and it is listed if it is the first field that
some identity names. A field that is marked but never the first is in neither list.
-/

namespace BeanGen.Descriptor.Relational

open Java Text

/-! ## The lists -/

/-- The field that an identity stands for is the first one it names. -/
def StandsFor (b : Binding) (identity : String) (f : BoundField) : Prop :=
  b.fields.find? (·.isNamed identity) = some f

theorem StandsFor.mem {b : Binding} {identity : String} {f : BoundField}
    (h : StandsFor b identity f) : f ∈ b.fields :=
  List.mem_of_find?_eq_some h

theorem StandsFor.isNamed {b : Binding} {identity : String} {f : BoundField}
    (h : StandsFor b identity f) : f.isNamed identity = true :=
  List.find?_some (p := fun g : BoundField => g.isNamed identity) h

theorem identitiesAfter_eq_ok {b : Binding} {known names result : List String}
    (h : identitiesAfter b known names = .ok result) :
    (∀ identity ∈ names, ∃ f, StandsFor b identity f ∧ f.isMapped = true) ∧
      (known.Nodup → result.Nodup) ∧
      ∀ p, p ∈ result ↔
        p ∈ known ∨ ∃ identity ∈ names, ∃ f, StandsFor b identity f ∧ f.property = p := by
  induction names generalizing known with
  | nil =>
    cases h
    simp
  | cons identity names ih =>
    rw [identitiesAfter] at h
    cases hFind : b.fields.find? (·.isNamed identity) with
    | none =>
      rw [hFind] at h
      cases h
    | some f =>
      have hFirst : ∀ g, StandsFor b identity g ↔ g = f := by
        intro g
        rw [StandsFor, hFind, Option.some.injEq, eq_comm]
      rw [hFind] at h
      simp only at h
      split at h
      · cases h
      · rename_i hMapped
        rw [Bool.not_eq_true, Bool.not_eq_false'] at hMapped
        split at h
        · rename_i hKnown
          obtain ⟨hStand, hNodup, hMem⟩ := ih h
          refine ⟨List.forall_mem_cons.mpr ⟨⟨f, (hFirst f).mpr rfl, hMapped⟩, hStand⟩, hNodup, ?_⟩
          intro p
          rw [hMem]
          simp only [List.mem_cons, exists_eq_or_imp, hFirst, exists_eq_left]
          constructor
          · rintro (hp | hp)
            · exact .inl hp
            · exact .inr (.inr hp)
          · rintro (hp | rfl | hp)
            · exact .inl hp
            · exact .inl (List.contains_iff_mem.mp hKnown)
            · exact .inr hp
        · rename_i hNew
          obtain ⟨hStand, hNodup, hMem⟩ := ih h
          refine ⟨List.forall_mem_cons.mpr ⟨⟨f, (hFirst f).mpr rfl, hMapped⟩, hStand⟩, ?_, ?_⟩
          · intro hKnown
            refine hNodup (List.nodup_append'.mpr ⟨hKnown, List.nodup_singleton _, ?_⟩)
            simpa [List.disjoint_singleton] using hNew
          · intro p
            rw [hMem]
            simp only [List.mem_cons, List.mem_append, exists_eq_or_imp, hFirst, exists_eq_left,
              List.not_mem_nil, or_false, or_assoc, @eq_comm String p f.property]

/-- A field that is marked as an identity, though every identity that names it stands for a field
before it. -/
def isPassedOver (b : Binding) (f : BoundField) : Bool :=
  b.isIdentity f && b.identities.all fun identity => b.fields.find? (·.isNamed identity) != some f

theorem isPassedOver_eq_false_iff {b : Binding} {f : BoundField} :
    isPassedOver b f = false ↔
      (b.isIdentity f = true → ∃ identity ∈ b.identities, StandsFor b identity f) := by
  rw [isPassedOver, Bool.and_eq_false_imp]
  refine imp_congr_right fun _ => ?_
  simp [List.all_eq_false, StandsFor]

theorem mem_mappedFields {b : Binding} {f : BoundField} :
    f ∈ mappedFields b ↔ f ∈ b.fields ∧ f.isMapped = true :=
  List.mem_filter

theorem StandsFor.isIdentity {b : Binding} {identity : String} {f : BoundField}
    (h : StandsFor b identity f) (hMem : identity ∈ b.identities) : b.isIdentity f = true :=
  List.any_eq_true.mpr ⟨identity, hMem, h.isNamed⟩

section Valid

variable {t : BoundType} {keys : List String}

theorem property_mem_identities_iff (hCheck : t.check = .ok ())
    (hKeys : identities t.binding = .ok keys) {f : BoundField} (hField : f ∈ t.fields) :
    f.property ∈ keys ↔ ∃ identity ∈ t.identities, StandsFor t.binding identity f := by
  obtain ⟨-, -, hMem⟩ := identitiesAfter_eq_ok hKeys
  rw [hMem]
  constructor
  · rintro (hNone | ⟨identity, hIdentity, g, hStands, hEq⟩)
    · cases hNone
    · rw [BoundType.eq_of_property_eq hCheck hField hStands.mem hEq.symm]
      exact ⟨identity, hIdentity, hStands⟩
  · rintro ⟨identity, hIdentity, hStands⟩
    exact .inr ⟨identity, hIdentity, f, hStands, rfl⟩

theorem property_mem_plainProperties_iff (hCheck : t.check = .ok ()) {f : BoundField}
    (hField : f ∈ mappedFields t.binding) :
    f.property ∈ plainProperties t.binding ↔ t.binding.isIdentity f = false := by
  rw [plainProperties, List.mem_map]
  constructor
  · rintro ⟨g, hg, hEq⟩
    obtain ⟨hMapped, hPlain⟩ := List.mem_filter.mp hg
    rw [← BoundType.eq_of_property_eq hCheck (mem_mappedFields.mp hMapped).1
      (mem_mappedFields.mp hField).1 hEq]
    simpa using hPlain
  · intro hPlain
    exact ⟨f, List.mem_filter.mpr ⟨hField, by simpa using hPlain⟩, rfl⟩

theorem exists_field_of_mem_identities (hKeys : identities t.binding = .ok keys) {p : String}
    (hp : p ∈ keys) :
    ∃ f ∈ mappedFields t.binding, f.property = p ∧ t.binding.isIdentity f = true := by
  obtain ⟨hStand, -, hMem⟩ := identitiesAfter_eq_ok hKeys
  obtain hNone | ⟨identity, hIdentity, f, hStands, hEq⟩ := (hMem p).mp hp
  · cases hNone
  · obtain ⟨g, hg, hMapped⟩ := hStand identity hIdentity
    obtain rfl : f = g := Option.some.inj (hStands.symm.trans hg)
    exact ⟨f, mem_mappedFields.mpr ⟨hStands.mem, hMapped⟩, hEq, hStands.isIdentity hIdentity⟩

/-- The two lists together hold every mapped field once, less those that are passed over. -/
theorem lists_perm (hCheck : t.check = .ok ()) (hKeys : identities t.binding = .ok keys) :
    (plainProperties t.binding ++ keys).Perm
      (((mappedFields t.binding).filter (!isPassedOver t.binding ·)).map (·.property)) := by
  have hMapped : ((mappedFields t.binding).map (·.property)).Nodup :=
    (BoundType.nodup_properties hCheck).sublist (List.filter_sublist.map _)
  have hPlain : (plainProperties t.binding).Nodup := hMapped.sublist (List.filter_sublist.map _)
  have hRest := hMapped.sublist
    ((List.filter_sublist (p := (!isPassedOver t.binding ·))).map (·.property))
  obtain ⟨-, hNodup, -⟩ := identitiesAfter_eq_ok hKeys
  have hBoth : (plainProperties t.binding ++ keys).Nodup := by
    refine List.nodup_append'.mpr ⟨hPlain, hNodup List.nodup_nil, ?_⟩
    intro p hpPlain hpKeys
    obtain ⟨f, hf, rfl, hIdentity⟩ := exists_field_of_mem_identities hKeys hpKeys
    rw [property_mem_plainProperties_iff hCheck hf, hIdentity] at hpPlain
    cases hpPlain
  refine (List.perm_ext_iff_of_nodup hBoth hRest).mpr fun p => ?_
  rw [List.mem_append, List.mem_map]
  constructor
  · rintro (hp | hp)
    · obtain ⟨f, hf, rfl⟩ := List.mem_map.mp hp
      obtain ⟨hf, hNone⟩ := List.mem_filter.mp hf
      refine ⟨f, List.mem_filter.mpr ⟨hf, ?_⟩, rfl⟩
      rw [Bool.not_eq_true', isPassedOver_eq_false_iff]
      intro hIdentity
      rw [hIdentity] at hNone
      cases hNone
    · obtain ⟨f, hf, rfl, -⟩ := exists_field_of_mem_identities hKeys hp
      refine ⟨f, List.mem_filter.mpr ⟨hf, ?_⟩, rfl⟩
      rw [Bool.not_eq_true', isPassedOver_eq_false_iff]
      intro _
      exact (property_mem_identities_iff hCheck hKeys (mem_mappedFields.mp hf).1).mp hp
  · rintro ⟨f, hf, rfl⟩
    obtain ⟨hf, hKept⟩ := List.mem_filter.mp hf
    rw [Bool.not_eq_true', isPassedOver_eq_false_iff] at hKept
    cases hIdentity : t.binding.isIdentity f with
    | false => exact .inl ((property_mem_plainProperties_iff hCheck hf).mpr hIdentity)
    | true =>
      exact .inr ((property_mem_identities_iff hCheck hKeys (mem_mappedFields.mp hf).1).mpr
        (hKept hIdentity))

end Valid

/-! ## The mark of an identity -/

/-- The line that tells the descriptor of a field whether the field is an identity. -/
def identityMark (f : BoundField) (value : Bool) : Line :=
  line (variableName f.property .descriptor ++ ".setIdentity(" ++ booleanLiteral value ++ ");")

/-- How the mark of an identity ends, back to front. -/
def markEnding : List Char :=
  "r.setIdentity(true);".toList.reverse

def EndsAsMark (text : String) : Prop :=
  markEnding <+: text.toList.reverse

instance (text : String) : Decidable (EndsAsMark text) :=
  inferInstanceAs (Decidable (markEnding <+: _))

/-- The ending and that of a mark differ before either is used up. -/
def clashes (ending : String) : Bool :=
  !markEnding.isPrefixOf ending.toList.reverse && !ending.toList.reverse.isPrefixOf markEnding

theorem not_endsAsMark_of_not_endsWith {text : String}
    (h : ¬ EndsWith "r.setIdentity(true);" text) : ¬ EndsAsMark text :=
  fun hMark => h (List.reverse_prefix.mp hMark)

theorem partAtEnd_of_clashes {ending : String} (h : clashes ending = true) :
    PartAtEnd "r.setIdentity(true);" ending := by
  simp only [clashes, Bool.and_eq_true, Bool.not_eq_true', Bool.eq_false_iff, ne_eq,
    List.isPrefixOf_iff_prefix] at h
  exact ⟨fun hLong => h.1 (List.reverse_prefix.mpr hLong),
    fun hShort => h.2 (List.reverse_prefix.mpr hShort)⟩

theorem not_endsAsMark_append {text ending : String} (h : clashes ending = true) :
    ¬ EndsAsMark (text ++ ending) :=
  not_endsAsMark_of_not_endsWith (not_endsWith_append text (partAtEnd_of_clashes h))

theorem not_endsAsMark_inner {text inner ending tail : String}
    (h : clashes (ending ++ tail) = true) : ¬ EndsAsMark (text ++ (inner ++ ending) ++ tail) :=
  not_endsAsMark_of_not_endsWith (not_endsWith_inner text (partAtEnd_of_clashes h))

theorem not_endsAsMark_variable {text property tail : String} {v : Local}
    (h : clashes (v.ending ++ tail) = true) :
    ¬ EndsAsMark (text ++ variableName property v ++ tail) :=
  not_endsAsMark_inner h

theorem not_endsAsMark_stringLiteral {text value tail : String}
    (h : clashes ("\"" ++ tail) = true) : ¬ EndsAsMark (text ++ stringLiteral value ++ tail) :=
  not_endsAsMark_of_not_endsWith (not_endsWith_stringLiteral text (partAtEnd_of_clashes h))

theorem not_endsAsMark_required (text : String) (value : Bool) :
    ¬ EndsAsMark (text ++ ".setRequired(" ++ booleanLiteral value ++ ");") := by
  rw [String.append_assoc, String.append_assoc]
  cases value <;> exact not_endsAsMark_append (by decide)

theorem not_endsAsMark_mapping (property : String) (value : Bool) :
    ¬ EndsAsMark (variableName property .mapping ++ ".setIdentity(" ++ booleanLiteral value ++
      ");") := by
  rw [variableName, String.append_assoc, String.append_assoc, String.append_assoc]
  cases value <;> exact not_endsAsMark_append (by decide)

theorem endsAsMark_identityMark {f : BoundField} {value : Bool} :
    EndsAsMark (identityMark f value).text ↔ value = true := by
  rw [identityMark, line, variableName, String.append_assoc, String.append_assoc,
    String.append_assoc]
  cases value with
  | false => exact iff_of_false (not_endsAsMark_append (by decide)) Bool.false_ne_true
  | true =>
    refine iff_of_true ?_ rfl
    have hEnding : markEnding <+:
        ("FieldDescr" ++ (".setIdentity(" ++ (booleanLiteral true ++ ");"))).toList.reverse := by
      decide
    rw [EndsAsMark, String.toList_append, List.reverse_append]
    exact hEnding.trans (List.prefix_append _ _)

section Lines

variable {s : Settings} {b : Binding} {boundClass : String} {isIdentity : Bool} {f : BoundField}
  {l : Line}

theorem not_endsAsMark_of_opening (h : l ∈ openingLines s b) : ¬ EndsAsMark l.text := by
  revert l
  simp (disch := decide) only [openingLines, line, List.forall_mem_cons,
    not_endsAsMark_append, not_endsAsMark_stringLiteral, not_false_eq_true, true_and]
  simp only [List.not_mem_nil, IsEmpty.forall_iff, implies_true, and_true]
  decide

theorem not_endsAsMark_of_declaring (h : l ∈ declaringLines isIdentity f) :
    ¬ EndsAsMark l.text := by
  revert l
  simp (disch := decide) only [declaringLines, line, List.forall_mem_cons,
    not_endsAsMark_append, not_endsAsMark_variable, not_endsAsMark_stringLiteral,
    not_endsAsMark_required, not_false_eq_true, true_and]
  simp only [List.not_mem_nil, IsEmpty.forall_iff, implies_true, and_true]
  decide

theorem not_endsAsMark_of_handler (h : l ∈ handlerLines boundClass f) : ¬ EndsAsMark l.text := by
  revert l
  simp (disch := decide) only [handlerLines, rescueLines, line, indented,
    List.cons_append, List.nil_append, List.forall_mem_cons, not_endsAsMark_append,
    not_endsAsMark_variable, ValueType.classLiteral, not_endsAsMark_inner, not_false_eq_true,
    true_and]
  simp only [List.not_mem_nil, IsEmpty.forall_iff, implies_true, and_true]
  decide

theorem not_endsAsMark_of_column (h : l ∈ columnLines f) : ¬ EndsAsMark l.text := by
  revert l
  simp (disch := decide) only [columnLines, line, List.forall_mem_cons,
    not_endsAsMark_append, not_endsAsMark_variable, not_false_eq_true, true_and]
  simp only [List.not_mem_nil, IsEmpty.forall_iff, implies_true, and_true]
  decide

theorem eq_identityMark_of_mapping (h : l ∈ mappingLines isIdentity f)
    (hEnds : EndsAsMark l.text) : l = identityMark f isIdentity := by
  revert hEnds
  revert l
  simp (disch := decide) only [mappingLines, line, List.forall_mem_cons,
    not_endsAsMark_append, not_endsAsMark_variable, not_endsAsMark_stringLiteral,
    not_endsAsMark_required, not_endsAsMark_mapping, false_imp_iff, true_and]
  exact ⟨fun _ => rfl, by simp⟩

theorem not_endsAsMark_of_closing {plain keys : List String} (h : l ∈ closingLines plain keys) :
    ¬ EndsAsMark l.text := by
  revert l
  simp (disch := decide) only [closingLines, line, List.forall_mem_cons,
    not_endsAsMark_append, not_false_eq_true, true_and]
  exact ⟨by decide, by simp⟩

theorem property_eq_of_identityMark_eq {g : BoundField}
    (h : identityMark f true = identityMark g true) : f.property = g.property := by
  have hChars := congrArg (fun l : Line => l.text.toList) h
  simp only [identityMark, line, variableName, String.toList_append, List.append_cancel_right_eq]
    at hChars
  exact String.toList_inj.mp hChars

theorem identityMark_mem_fieldBlock_iff {g : BoundField} :
    identityMark g true ∈ fieldBlock boundClass isIdentity f ↔
      isIdentity = true ∧ f.property = g.property := by
  have hEnds : EndsAsMark (identityMark g true).text := endsAsMark_identityMark.mpr rfl
  simp only [fieldBlock, List.mem_append]
  constructor
  · rintro (((hLine | hLine) | hLine) | hLine)
    · exact absurd hEnds (not_endsAsMark_of_declaring hLine)
    · exact absurd hEnds (not_endsAsMark_of_handler hLine)
    · exact absurd hEnds (not_endsAsMark_of_column hLine)
    · have hEq := eq_identityMark_of_mapping hLine hEnds
      obtain rfl : isIdentity = true := endsAsMark_identityMark.mp (hEq ▸ hEnds)
      exact ⟨rfl, (property_eq_of_identityMark_eq hEq).symm⟩
  · rintro ⟨rfl, hProperty⟩
    have hEq : identityMark g true = identityMark f true := by
      rw [identityMark, identityMark, hProperty]
    rw [hEq]
    exact .inr (List.mem_cons_of_mem _ List.mem_cons_self)

theorem identityMark_mem_constructorLines_iff {keys : List String} {g : BoundField} :
    identityMark g true ∈ constructorLines s b keys ↔
      ∃ f ∈ mappedFields b, b.isIdentity f = true ∧ f.property = g.property := by
  have hEnds : EndsAsMark (identityMark g true).text := endsAsMark_identityMark.mpr rfl
  have hEmpty : identityMark g true ≠ line "" := by
    intro hEq
    rw [hEq] at hEnds
    exact absurd hEnds (by decide)
  simp only [constructorLines, List.mem_append, fieldBlocks, List.mem_flatMap, List.mem_cons,
    hEmpty, false_or, identityMark_mem_fieldBlock_iff]
  constructor
  · rintro ((hLine | hBlock) | hLine)
    · exact absurd hEnds (not_endsAsMark_of_opening hLine)
    · exact hBlock
    · exact absurd hEnds (not_endsAsMark_of_closing hLine)
  · intro hBlock
    exact .inl (.inr hBlock)

end Lines

/-! ## Partition -/

/-- The constructor ends by listing the other fields and the identities. -/
def Lists (d : ClassDecl) (plain keys : List String) : Prop :=
  ∃ before, Descriptor.constructorLines d = before ++ closingLines plain keys

def Marked (d : ClassDecl) (f : BoundField) : Prop :=
  identityMark f true ∈ Descriptor.constructorLines d

/-- Each mapped field is in one of the lists, once, and it is marked if that list is that of the
identities. -/
structure Partitions (t : BoundType) (d : ClassDecl) (plain keys : List String) : Prop where
  once : ∀ f ∈ mappedFields t.binding, (plain ++ keys).count f.property = 1
  only : ∀ p ∈ plain ++ keys, ∃ f ∈ mappedFields t.binding, f.property = p
  marked : ∀ f ∈ mappedFields t.binding, Marked d f ↔ f.property ∈ keys

theorem describe_of_identities {t : BoundType} {keys : List String}
    (hKeys : identities t.binding = .ok keys) (s : Settings) (name : String) :
    describe s name t = .ok (withIdentities s name t.binding keys) := by
  rw [describe, hKeys]
  rfl

theorem lists_of_describe {s : Settings} {name : String} {t : BoundType} {d : ClassDecl}
    (hDescribe : describe s name t = .ok d) :
    ∃ keys, identities t.binding = .ok keys ∧ Lists d (plainProperties t.binding) keys := by
  obtain ⟨keys, hKeys, rfl⟩ := exists_identities_of_describe hDescribe
  exact ⟨keys, hKeys, _, constructorLines_relational s name t.binding keys⟩

theorem marked_iff {s : Settings} {name : String} {t : BoundType} {d : ClassDecl}
    (hCheck : t.check = .ok ()) (hDescribe : describe s name t = .ok d) {f : BoundField}
    (hField : f ∈ mappedFields t.binding) : Marked d f ↔ t.binding.isIdentity f = true := by
  obtain ⟨keys, -, rfl⟩ := exists_identities_of_describe hDescribe
  rw [Marked, constructorLines_relational, identityMark_mem_constructorLines_iff]
  constructor
  · rintro ⟨g, hg, hIdentity, hEq⟩
    rwa [← BoundType.eq_of_property_eq hCheck (mem_mappedFields.mp hg).1
      (mem_mappedFields.mp hField).1 hEq]
  · intro hIdentity
    exact ⟨f, hField, hIdentity, rfl⟩

theorem partitions_iff {s : Settings} {name : String} {t : BoundType} {d : ClassDecl}
    {keys : List String} (hCheck : t.check = .ok ()) (hDescribe : describe s name t = .ok d)
    (hKeys : identities t.binding = .ok keys) :
    Partitions t d (plainProperties t.binding) keys ↔
      ∀ f ∈ mappedFields t.binding, isPassedOver t.binding f = false := by
  have hStands : ∀ f ∈ mappedFields t.binding, f.property ∈ keys ↔
      ∃ identity ∈ t.identities, StandsFor t.binding identity f :=
    fun f hf => property_mem_identities_iff hCheck hKeys (mem_mappedFields.mp hf).1
  constructor
  · intro hPartitions f hf
    rw [isPassedOver_eq_false_iff, ← marked_iff hCheck hDescribe hf, hPartitions.marked f hf]
    exact (hStands f hf).mp
  · intro hNone
    have hAll : (mappedFields t.binding).filter (!isPassedOver t.binding ·) =
        mappedFields t.binding :=
      List.filter_eq_self.mpr fun f hf => by rw [hNone f hf, Bool.not_false]
    have hPerm := lists_perm hCheck hKeys
    rw [hAll] at hPerm
    have hMapped : ((mappedFields t.binding).map (·.property)).Nodup :=
      (BoundType.nodup_properties hCheck).sublist (List.filter_sublist.map _)
    refine ⟨?_, ?_, ?_⟩
    · intro f hf
      rw [hPerm.count_eq]
      exact List.count_eq_one_of_mem hMapped (List.mem_map_of_mem hf)
    · intro p hp
      exact List.mem_map.mp (hPerm.subset hp)
    · intro f hf
      rw [marked_iff hCheck hDescribe hf, hStands f hf]
      constructor
      · exact isPassedOver_eq_false_iff.mp (hNone f hf)
      · rintro ⟨identity, hIdentity, hStands⟩
        exact hStands.isIdentity hIdentity

/-- A field is only passed over for one whose name has an underscore more or less. -/
theorem exists_underscored_of_isPassedOver {t : BoundType} (hCheck : t.check = .ok ())
    {f : BoundField} (hField : f ∈ t.fields) (h : isPassedOver t.binding f = true) :
    ∃ g ∈ t.fields, g.name = "_" ++ f.name ∨ f.name = "_" ++ g.name := by
  rw [isPassedOver, Bool.and_eq_true, List.all_eq_true] at h
  obtain ⟨hIdentity, hOthers⟩ := h
  obtain ⟨identity, hMem, hNamed⟩ := List.any_eq_true.mp hIdentity
  have hNotFirst : t.fields.find? (·.isNamed identity) ≠ some f :=
    bne_iff_ne.mp (hOthers identity hMem)
  cases hFirst : t.fields.find? (·.isNamed identity) with
  | none => exact absurd hNamed (by simpa using List.find?_eq_none.mp hFirst f hField)
  | some g =>
    have hg : g ∈ t.fields := List.mem_of_find?_eq_some hFirst
    have hOther : g ≠ f := by
      rintro rfl
      exact hNotFirst hFirst
    have hName : g.name ≠ f.name := fun hEq => hOther (BoundType.eq_of_name_eq hCheck hg hField hEq)
    have hProperty : g.property ≠ f.property :=
      fun hEq => hOther (BoundType.eq_of_property_eq hCheck hg hField hEq)
    have hFound : g.isNamed identity = true := StandsFor.isNamed (b := t.binding) hFirst
    simp only [BoundField.isNamed, Bool.or_eq_true, beq_iff_eq] at hNamed hFound
    refine ⟨g, hg, ?_⟩
    rcases hNamed with rfl | rfl
    · have hStripped := hFound.resolve_left hName
      exact .inl ((BoundField.eq_or_eq_of_stripUnderscore hStripped).resolve_left hName)
    · have hStripped := (hFound.resolve_right hProperty).symm
      exact .inr ((BoundField.eq_or_eq_of_stripUnderscore hStripped).resolve_left hName.symm)

/-- The lists of a relational descriptor hold each mapped field that is not passed over once, and a
field is marked as an identity if some identity names it. So they partition the mapped fields
exactly if no field is passed over. -/
theorem lists_partition_iff_none_passed_over {s : Settings} {name : String} {t : BoundType}
    {d : ClassDecl} (hCheck : t.check = .ok ()) (hDescribe : describe s name t = .ok d) :
    ∃ keys, identities t.binding = .ok keys ∧ Lists d (plainProperties t.binding) keys ∧
      (plainProperties t.binding ++ keys).Perm
        (((mappedFields t.binding).filter (!isPassedOver t.binding ·)).map (·.property)) ∧
      (∀ f ∈ mappedFields t.binding, Marked d f ↔ t.binding.isIdentity f = true) ∧
      (∀ f ∈ mappedFields t.binding, isPassedOver t.binding f = true →
        ∃ g ∈ t.fields, g.name = "_" ++ f.name ∨ f.name = "_" ++ g.name) ∧
      (Partitions t d (plainProperties t.binding) keys ↔
        ∀ f ∈ mappedFields t.binding, isPassedOver t.binding f = false) := by
  obtain ⟨keys, hKeys, hLists⟩ := lists_of_describe hDescribe
  refine ⟨keys, hKeys, hLists, lists_perm hCheck hKeys, ?_, ?_,
    partitions_iff hCheck hDescribe hKeys⟩
  · intro f hf
    exact marked_iff hCheck hDescribe hf
  · intro f hf hPassed
    exact exists_underscored_of_isPassedOver hCheck (mem_mappedFields.mp hf).1 hPassed

def outerNumber : BoundField :=
  .single "_number" .int "Number"

def innerNumber : BoundField :=
  .single "__number" .int "InnerNumber"

/-- An order with two numbers, whose names differ by an underscore, and a date. -/
def numberedOrder (identities : List String) : BoundType :=
  { BoundType.ofName "Order" with
    identities := identities
    fields := [outerNumber, innerNumber, .single "placed" .date "Placed"] }

/-- With a key of both numbers, each under a name that no other field has, all fields are listed. -/
theorem lists_partition_both_numbers :
    (numberedOrder ["__number", "number"]).check = .ok () ∧
      ∃ d keys, describe .standard "OrderJDODescriptor" (numberedOrder ["__number", "number"]) =
          .ok d ∧
        identities (numberedOrder ["__number", "number"]).binding = .ok keys ∧
        Partitions (numberedOrder ["__number", "number"]) d
          (plainProperties (numberedOrder ["__number", "number"]).binding) keys := by
  have hCheck : (numberedOrder ["__number", "number"]).check = .ok () := by decide
  have hBoth : identities (numberedOrder ["__number", "number"]).binding =
      .ok ["_number", "number"] := by
    decide
  have hDescribe := describe_of_identities hBoth .standard "OrderJDODescriptor"
  obtain ⟨keys, hKeys, -, -, -, -, hPartitions⟩ :=
    lists_partition_iff_none_passed_over hCheck hDescribe
  exact ⟨hCheck, _, keys, hDescribe, hKeys, hPartitions.mpr (by decide)⟩

/-- With `_number` for a key, the inner number is marked as an identity and is in neither list. -/
theorem inner_number_in_no_list :
    (numberedOrder ["_number"]).check = .ok () ∧
      ∃ d, describe .standard "OrderJDODescriptor" (numberedOrder ["_number"]) = .ok d ∧
        plainProperties (numberedOrder ["_number"]).binding = ["placed"] ∧
        identities (numberedOrder ["_number"]).binding = .ok ["number"] ∧
        Lists d ["placed"] ["number"] ∧
        innerNumber ∈ mappedFields (numberedOrder ["_number"]).binding ∧ Marked d innerNumber ∧
        ¬ Partitions (numberedOrder ["_number"]) d ["placed"] ["number"] := by
  have hPlain : plainProperties (numberedOrder ["_number"]).binding = ["placed"] := by
    decide
  have hOuter : identities (numberedOrder ["_number"]).binding = .ok ["number"] := by
    decide
  have hDescribe := describe_of_identities hOuter .standard "OrderJDODescriptor"
  have hMapped : innerNumber ∈ mappedFields (numberedOrder ["_number"]).binding := by
    decide
  obtain ⟨keys, hKeys, hLists⟩ := lists_of_describe hDescribe
  obtain rfl : keys = ["number"] := Except.ok.inj (hKeys.symm.trans hOuter)
  rw [hPlain] at hLists
  refine ⟨by decide, _, hDescribe, hPlain, hOuter, hLists, hMapped, ?_, ?_⟩
  · rw [Marked, constructorLines_relational]
    exact identityMark_mem_constructorLines_iff.mpr ⟨innerNumber, hMapped, by decide, rfl⟩
  · intro hPartitions
    have hOnce := hPartitions.once innerNumber hMapped
    revert hOnce
    decide

end BeanGen.Descriptor.Relational
