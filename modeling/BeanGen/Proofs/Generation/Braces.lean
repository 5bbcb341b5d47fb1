import BeanGen.Proofs.Descriptor.Braces
import BeanGen.Proofs.Generation.Imports

/-!
# Generated text is balanced

As long as no text of the settings and of a type has a brace, the text of each of its classes has as
many closing braces as opening ones and never a closing one too early, and so has every body.
-/

namespace BeanGen.Generation

open Accessor Conflict Java Text

/-! ## Bound classes -/

section Bound

variable {s : Settings} {t : BoundType} {f : BoundField} {c : ClassDecl}

theorem isBraceless_effectiveField (h : f.IsBraceless) (s : Settings) :
    (effectiveField s f).IsBraceless :=
  fun text hText => h text hText

theorem unbraced_ofSettings (hSettings : s.IsBraceless) (hField : f.IsBraceless) :
    Accessor.Unbraced (.ofSettings s) f :=
  ⟨hField, hSettings.runtime _ (by simp [Holding.ofSettings, RuntimeClasses.strings]),
    hSettings.runtime _ (by simp [Holding.ofSettings, RuntimeClasses.strings])⟩

theorem braceless_markers (hSettings : s.IsBraceless) : ∀ text ∈ s.arrayMarkers, Braceless text :=
  fun text hText => hSettings text (by simp [Settings.strings, hText])

theorem isBraced_accessors (hSettings : s.IsBraceless) (hField : f.IsBraceless) :
    ∀ m ∈ accessors s f, m.IsBraced := by
  intro m hMethod
  obtain ⟨a, -, rfl⟩ := mem_accessors.mp hMethod
  exact (unbraced_ofSettings hSettings hField).isBraced_method (braceless_markers hSettings) a

theorem isBraced_withProperty (hSettings : s.IsBraceless) (hField : f.IsBraceless)
    (h : c.IsBraced) : (withProperty s c f).IsBraced := by
  have hAccessors := isBraced_accessors hSettings hField
  rw [accessors] at hAccessors
  rw [withProperty]
  split
  · rename_i hMany
    rw [if_pos hMany] at hAccessors
    have hMember := (unbraced_ofSettings hSettings hField).isBraced_member
    exact isBraced_installIfBound (((h.addImports _).addField hMember).emitAll hAccessors) f
  · rename_i hSingle
    rw [if_neg hSingle] at hAccessors
    have hMembers := isBraced_scalarMembers hField
    exact isBraced_installIfBound (((h.addImports _).addFields hMembers).emitAll hAccessors) f

theorem isBraced_foldl_withProperty (hSettings : s.IsBraceless) {fs : List BoundField}
    (hFields : ∀ f ∈ fs, f.IsBraceless) (h : c.IsBraced) :
    (fs.foldl (withProperty s) c).IsBraced := by
  induction fs generalizing c with
  | nil => exact h
  | cons f fs ih =>
    obtain ⟨hField, hRest⟩ := List.forall_mem_cons.mp hFields
    exact ih hRest (isBraced_withProperty hSettings hField h)

theorem closed_initialLines (hSettings : s.IsBraceless) (hField : f.IsBraceless) :
    Closed (initialLines s f) := by
  rw [initialLines]
  split
  · exact (unbraced_ofSettings hSettings hField).closed_initialLines
  · exact closed_scalarInitialLines hField

theorem braceless_superclass? (hSettings : s.IsBraceless) (hType : t.IsBraceless) :
    ∀ q ∈ (superclass? s t).toList, Braceless q := by
  intro q hq
  rw [superclass?] at hq
  split at hq
  · exact hType q (by simp_all [BoundType.strings])
  · exact hSettings q (by simp_all [Settings.strings])

theorem isBraced_emptyClass (hSettings : s.IsBraceless) (hType : t.IsBraceless) :
    (emptyClass s t).IsBraced := by
  have hNotes : ∀ text ∈ t.notes.flatMap (·.strings), Braceless text := fun text hText =>
    hType text (List.mem_append_left _ (List.mem_append_right _ hText))
  have hComment : Braced 1 (classComment t) := by
    rw [classComment]
    cases hVisible : visibleComment? t.notes with
    | none => exact .enclosed (by decide) hType.name.simpleName.braced (by decide)
    | some text =>
      exact (braceless_visibleComment? hNotes text (by simp [hVisible])).braced
  obtain ⟨imports, hImports⟩ :=
    (ClassDecl.ofName t.name).exists_addImports_eq (superclass? s t).toList
  rw [emptyClass, hImports]
  refine ⟨?_, List.forall_mem_singleton.mpr hComment, List.forall_mem_nil _, List.forall_mem_nil _,
    List.forall_mem_nil _⟩
  have hParent := braceless_superclass? hSettings hType
  cases hSuper : superclass? s t with
  | none => exact List.forall_mem_nil _
  | some parent =>
    exact List.forall_mem_singleton.mpr (hParent parent (by simp [hSuper])).simpleName

theorem isBraceless_of_mem_effectiveFields (hType : t.IsBraceless) :
    ∀ f ∈ effectiveFields s t, f.IsBraceless := by
  refine List.forall_mem_map.mpr fun f hField => ?_
  exact isBraceless_effectiveField (hType.field hField) s

theorem isBraced_boundClass (hSettings : s.IsBraceless) (hType : t.IsBraceless) :
    (boundClass s t).IsBraced := by
  have hFields := isBraceless_of_mem_effectiveFields (s := s) hType
  refine (isBraced_foldl_withProperty hSettings hFields
    (isBraced_emptyClass hSettings hType)).addConstructor (ConstructorDecl.isBraced_plain ?_)
  refine .cons (.ofList (by decide)) (.flatMap fun f hf => ?_)
  exact closed_initialLines hSettings (hFields f hf)

theorem braceless_boundNames (hSettings : s.IsBraceless) (hType : t.IsBraceless) :
    ∀ q ∈ boundNames s t, Braceless q := by
  have hFields := isBraceless_of_mem_effectiveFields (s := s) hType
  simp only [boundNames, List.forall_mem_append, List.forall_mem_flatMap]
  refine ⟨⟨braceless_superclass? hSettings hType, fun f hf => ?_⟩, ?_⟩
  · rw [fieldNames]
    split
    · exact (unbraced_ofSettings hSettings (hFields f hf)).imports
    · exact (hFields f hf).valueType.imports
  · split
    · exact braceless_listenerNames
    · exact List.forall_mem_nil _

end Bound

/-! ## All classes of a type -/

/-- The text of a class is balanced, and so is each of the bodies in it. -/
structure IsBalanced (c : ClassDecl) : Prop where
  text : Balanced c.render
  methods : ∀ m ∈ c.methods, ∀ depth, Balanced (m.body.render depth)
  constructors : ∀ k ∈ c.constructors, ∀ depth, Balanced (k.body.render depth)

theorem isBalanced_of_isBraced {c : ClassDecl} {names : List String} (h : c.IsBraced)
    (hName : Braceless c.name) (hAsked : c.Asked names) (hNames : ∀ q ∈ names, Braceless q) :
    IsBalanced c where
  text := h.balanced_render hName fun q hq => (hNames q ((hAsked.mem_iff q).mp hq).1).braced
  methods m hm depth := (h.methods m hm).body.balanced_render depth
  constructors k hk depth := (h.constructors k hk).body.balanced_render depth

section Classes

variable {s : Settings} {t : BoundType}

theorem isBalanced_boundClass (hSettings : s.IsBraceless) (hType : t.IsBraceless) :
    IsBalanced (boundClass s t) := by
  refine isBalanced_of_isBraced (isBraced_boundClass hSettings hType) ?_ (asked_boundClass s t)
    (braceless_boundNames hSettings hType)
  rw [name_boundClass]
  exact hType.name

theorem isBalanced_xmlClasses (k : Descriptor.Unbraced s t) :
    ∀ c ∈ xmlClasses s t, IsBalanced c := by
  have hName : Braceless (Descriptor.Xml.nameFor s t.name) :=
    k.type.name.append (k.settings _ (by simp [Settings.strings]))
  rw [xmlClasses]
  split
  · refine List.forall_mem_singleton.mpr ?_
    have hAsked := ClassDecl.Asked.ofName_addImports (Descriptor.Xml.nameFor s t.name)
      (Descriptor.Xml.imports s t)
    refine isBalanced_of_isBraced (Descriptor.Xml.isBraced_describe k hName) ?_
      (hAsked.of_eq (by rw [Descriptor.Xml.describe]) (by rw [Descriptor.Xml.describe]))
      (Descriptor.Xml.braceless_imports k)
    rwa [Descriptor.Xml.name_describe]
  · exact List.forall_mem_nil _

theorem isBalanced_relationalClasses (k : Descriptor.Unbraced s t) {classes : List ClassDecl}
    (h : relationalClasses s t = .ok classes) : ∀ c ∈ classes, IsBalanced c := by
  rcases relationalClasses_cases h with ⟨-, rfl⟩ | ⟨-, d, rfl, hDescribe⟩
  · exact List.forall_mem_nil _
  · refine List.forall_mem_singleton.mpr ?_
    have hName : Braceless (Descriptor.Relational.nameFor s t.name) :=
      k.type.name.append (k.settings _ (by simp [Settings.strings]))
    have hBraced := Descriptor.Relational.isBraced_describe k hName hDescribe
    obtain ⟨identities, -, rfl⟩ := Descriptor.exists_identities_of_describe hDescribe
    have hAsked := ClassDecl.Asked.ofName_addImports (Descriptor.Relational.nameFor s t.name)
      (Descriptor.Relational.imports s t.binding)
    refine isBalanced_of_isBraced hBraced ?_ (hAsked.of_eq
      (by rw [Descriptor.Relational.withIdentities]) (by rw [Descriptor.Relational.withIdentities]))
      (Descriptor.Relational.braceless_imports k)
    rwa [Descriptor.Relational.name_withIdentities]

theorem braceless_qualify (hSettings : s.IsBraceless) {name : String} (hName : Braceless name) :
    Braceless (s.qualify name) := by
  have hPackage : Braceless s.package := hSettings _ (by simp [Settings.strings])
  rw [Settings.qualify]
  split
  · exact hName
  · exact (hPackage.append (.ofList (by decide))).append hName

theorem isBraceless_qualifiedType (hSettings : s.IsBraceless) (hType : t.IsBraceless) :
    (qualifiedType s t).IsBraceless := by
  have hParent : ∀ q ∈ (t.parent.map s.qualify).toList, Braceless q := by
    intro q hq
    obtain ⟨parent, hSome, rfl⟩ := Option.map_eq_some_iff.mp (Option.mem_toList.mp hq)
    exact braceless_qualify hSettings (hType parent (by simp [BoundType.strings, hSome]))
  have hName := braceless_qualify hSettings hType.name
  simp only [BoundType.IsBraceless, BoundType.strings, qualifiedType, List.forall_mem_append,
    List.forall_mem_cons] at hType ⊢
  tauto

end Classes

theorem Step.isBalanced_of_ok {σ : Type} {g : Generator} {t : BoundType}
    {dialog : Option (Dialog σ)} {source : σ}
    {o : Outcome σ (Generator × Except BindError (List ClassDecl))}
    (h : Step g t dialog source o) (k : Descriptor.Unbraced g.settings t)
    {classes : List ClassDecl} (hOk : o.value.2 = .ok classes) : ∀ c ∈ classes, IsBalanced c := by
  obtain ⟨-, ⟨relational, hRelational, rfl⟩, -⟩ := h.of_ok hOk
  refine List.forall_mem_cons.mpr ⟨isBalanced_boundClass k.settings k.type, ?_⟩
  exact List.forall_mem_append.mpr
    ⟨isBalanced_xmlClasses k, isBalanced_relationalClasses k hRelational⟩

/-- If no text of the settings and of a type has a brace, the texts of the classes of the type are
balanced, and every body in them is so by itself. -/
theorem generated_text_balanced {σ : Type} (g : Generator) (t : BoundType)
    (dialog : Option (Dialog σ)) (source : σ)
    (hBraceless : ∀ text ∈ g.settings.strings ++ t.strings, Braceless text)
    {classes : List ClassDecl}
    (hOk : ((g.generate t).answer dialog source).value.2 = .ok classes) :
    ∀ c ∈ classes, IsBalanced c := by
  obtain ⟨hSettings, hType⟩ := List.forall_mem_append.mp hBraceless
  have hUnbraced : Descriptor.Unbraced g.settings (qualifiedType g.settings t) :=
    ⟨hSettings, isBraceless_qualifiedType hSettings hType⟩
  exact (generate_step g t dialog source).isBalanced_of_ok hUnbraced hOk

/-- The standard settings, but with relational descriptors as well. -/
def parcelSettings : Settings :=
  { Settings.standard with generateJdoDescriptors := true }

theorem isBraceless_parcelSettings : parcelSettings.IsBraceless := by
  simp only [Settings.IsBraceless, Settings.strings, RuntimeClasses.strings, parcelSettings,
    Settings.standard, RuntimeClasses.standard, Option.toList_none, List.forall_mem_append,
    List.forall_mem_cons]
  and_intros
  all_goals with_reducible first
    | exact List.forall_mem_nil _
    | exact .ofList (by decide +kernel)

/-- An identity, a number with a default whose changes are told, and a collection with a maximum. -/
def parcel : BoundType :=
  { BoundType.ofName "freight.Parcel" with
    identities := ["id"]
    fields := [.single "id" .string "Id",
      { BoundField.single "weight" .int "Weight" with bound := true, defaultValue := some "1" },
      .collection "stamps" .date "Stamp" 4] }

theorem parcel_text_balanced :
    ∃ bound xml relational, (((Generator.ofStrategy parcelSettings .informViaLog).generate
        parcel).answer (none : Option (Dialog Unit)) ()).value.2 = .ok [bound, xml, relational] ∧
      ∀ c ∈ [bound, xml, relational], IsBalanced c := by
  have hSome : (((Generator.ofStrategy parcelSettings .informViaLog).generate parcel).answer
      (none : Option (Dialog Unit)) ()).value.2.toOption.isSome = true := by decide +kernel
  obtain ⟨classes, hOk⟩ := exists_ok_of_isSome hSome
  obtain ⟨-, ⟨relational, hRelational, rfl⟩, -⟩ := (generate_step _ _ _ _).of_ok hOk
  rcases relationalClasses_cases hRelational with ⟨hUnasked, -⟩ | ⟨-, d, rfl, -⟩
  · cases hUnasked
  · refine ⟨_, _, _, hOk, generated_text_balanced _ parcel none () ?_ hOk⟩
    exact List.forall_mem_append.mpr ⟨isBraceless_parcelSettings, by decide +kernel⟩

end BeanGen.Generation
