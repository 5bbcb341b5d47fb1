import BeanGen.Proofs.Generation.Imports
import BeanGen.Proofs.Generation.Reach
import BeanGen.Proofs.Settings.Qualify
import BeanGen.Settings.Validity

/-!
# The classes that fields refer to

The name of a type and that of its parent get the package of the settings, and the classes that its
fields refer to keep the names they have. So a name without a package means a class beside the one
that is generated, wherever that is, and this is the class of that name in the package only if the
generated class is in the package too, or asks for that class for another reason.
-/

namespace BeanGen

open Java

/-! ## What a name refers to -/

/-- A class that asks for the name as it stands denotes what the settings make of it if the name has
a package, or else if the class itself is in the package of the settings. -/
theorem Java.ClassDecl.Asked.denotes_qualify_iff {c : ClassDecl} {names : List String}
    (h : c.Asked names) {s : Settings} {name : String} (hPackage : s.package ≠ "")
    (hName : name ∈ names) :
    c.Denotes (s.qualify name) ↔ isQualified name = true ∨ c.package = s.package ∨
      s.package = "java.lang" ∨ s.qualify name ∈ names := by
  rw [h.denotes_iff (Settings.isQualified_qualify hPackage name)]
  cases hQualified : isQualified name with
  | true =>
    rw [Settings.qualify_of_isQualified s hQualified]
    exact iff_of_true (.inl hName) (.inl rfl)
  | false =>
    rw [Settings.packageName_qualify hPackage hQualified, eq_comm (a := s.package) (b := c.package)]
    simp only [Bool.false_eq_true, false_or]
    constructor
    · rintro (hAsked | hSame | hLang)
      · exact .inr (.inr hAsked)
      · exact .inl hSame
      · exact .inr (.inl hLang)
    · rintro (hSame | hLang | hAsked)
      · exact .inr (.inl hSame)
      · exact .inr (.inr hLang)
      · exact .inl hAsked

/-! ## Classes that mention a type -/

namespace Generation

open Accessor Conflict Descriptor

/-- A method takes a value of the type, or a line of the constructor has its class literal. -/
def Mentions (c : ClassDecl) (type : String) : Prop :=
  (∃ name, HasSignature c name [type]) ∨
    ∃ l ∈ constructorLines c, (type ++ ".class").toList <:+: l.text.toList

section Field

variable {s : Settings} {t : BoundType} {f : BoundField} {className : String}

theorem imports_of_bound (hContent : f.content = .bound className) :
    f.valueType.imports = [className] := by
  rw [BoundField.valueType, hContent]
  rfl

theorem written_of_bound (hContent : f.content = .bound className) :
    f.valueType.written = simpleName className := by
  rw [BoundField.valueType, hContent]
  rfl

theorem elementType_of_bound (hContent : f.content = .bound className) (s : Settings) :
    elementType s f = simpleName className := by
  rw [elementType, BoundField.valueType, hContent]
  split <;> rfl

theorem mem_boundNames (hField : f ∈ t.fields) (hContent : f.content = .bound className) :
    className ∈ boundNames s t := by
  have hImports : (effectiveField s f).valueType.imports = [className] :=
    imports_of_bound (f := effectiveField s f) hContent
  refine List.mem_append_left _ (List.mem_append_right _ (List.mem_flatMap.mpr ?_))
  refine ⟨effectiveField s f, List.mem_map_of_mem hField, ?_⟩
  rw [fieldNames]
  split
  · simp only [collectionNames, Holding.layout, hImports, List.mem_append, List.mem_cons, true_or,
      or_true]
  · rw [hImports]
    exact List.mem_cons_self

theorem mem_xmlImports (hField : f ∈ t.fields) (hContent : f.content = .bound className) :
    className ∈ Xml.imports s t := by
  have hImports : className ∈ t.fields.flatMap (·.valueType.imports) := by
    refine List.mem_flatMap.mpr ⟨f, hField, ?_⟩
    rw [imports_of_bound hContent]
    exact List.mem_cons_self
  simp only [Xml.imports, List.mem_append, hImports, or_true, true_or]

theorem mentions_boundClass (hField : f ∈ t.fields) (hContent : f.content = .bound className) :
    Mentions (boundClass s t) (simpleName className) := by
  have hAnswers : Answers s (HasSignature (boundClass s t)) f :=
    answers_of_forms fun a _ hA => hasSignature_boundClass hField hA
  cases hMany : f.isCollection with
  | false =>
    have hSetter := (hAnswers.writes hMany).2
    rw [written_of_bound hContent] at hSetter
    exact .inl ⟨_, hSetter⟩
  | true =>
    have hAdd := (hAnswers.adds hMany).2
    rw [elementType_of_bound hContent] at hAdd
    exact .inl ⟨_, hAdd⟩

theorem mentions_xml (hField : f ∈ t.fields) (hContent : f.content = .bound className)
    (name : String) : Mentions (Xml.describe s name t) (simpleName className) := by
  have hBlock : line ("desc = new " ++ simpleName s.runtime.xmlFieldDescriptor ++ "(" ++
      f.valueType.classLiteral ++ ", \"" ++ f.name ++ "\", \"" ++ f.xmlName ++ "\", " ++
      simpleName s.runtime.nodeType ++ "." ++ f.node.constant ++ ");") ∈
      Xml.fieldBlock s (simpleName t.name) (t.binding.isIdentity f) f := by
    simp only [Xml.fieldBlock, Xml.describingLines, List.mem_append, List.mem_cons, true_or, or_true]
  refine .inr ⟨_, mem_constructorLines_xml name hField hBlock, ?_⟩
  rw [← written_of_bound hContent]
  refine ⟨("desc = new " ++ simpleName s.runtime.xmlFieldDescriptor ++ "(").toList,
    (", \"" ++ f.name ++ "\", \"" ++ f.xmlName ++ "\", " ++
      simpleName s.runtime.nodeType ++ "." ++ f.node.constant ++ ");").toList, ?_⟩
  simp only [line, ValueType.classLiteral, String.toList_append, List.append_assoc]

end Field

end Generation

/-! ## Relational descriptors -/

section Refer

variable (rename : String → String)

/-- The kind of value with another name for the class, if it is one. -/
def ContentKind.refer : ContentKind → ContentKind
  | .bound className => .bound (rename className)
  | k => k

def BoundField.refer (f : BoundField) : BoundField :=
  { f with content := f.content.refer rename }

def BoundType.refer (t : BoundType) : BoundType :=
  { t with fields := t.fields.map (BoundField.refer rename) }

theorem BoundField.isMapped_refer (f : BoundField) : (f.refer rename).isMapped = f.isMapped := by
  rw [isMapped, isMapped, refer]
  cases f.multiplicity with
  | many => rfl
  | single => cases f.content <;> rfl

theorem BoundField.refer_of_isMapped {f : BoundField} (h : f.isMapped = true) :
    f.refer rename = f := by
  have hKept : f.content.refer rename = f.content := by
    cases hContent : f.content with
    | bound className =>
      rw [isMapped, hContent] at h
      cases hMany : f.multiplicity <;> rw [hMany] at h <;> cases h
    | _ => rfl
  rw [refer, hKept]

namespace Descriptor.Relational

variable (b : Binding)

theorem mappedFields_refer :
    mappedFields { b with fields := b.fields.map (BoundField.refer rename) } = mappedFields b := by
  have hSame : (fun f : BoundField => (f.refer rename).isMapped) = BoundField.isMapped :=
    funext (BoundField.isMapped_refer rename)
  rw [mappedFields, List.filter_map, Function.comp_def, hSame, ← mappedFields]
  refine (List.map_congr_left ?_).trans (List.map_id _)
  intro f hField
  exact BoundField.refer_of_isMapped rename (List.mem_filter.mp hField).2

theorem identitiesAfter_refer (known keys : List String) :
    identitiesAfter { b with fields := b.fields.map (BoundField.refer rename) } known keys =
      identitiesAfter b known keys := by
  induction keys generalizing known with
  | nil => rfl
  | cons key keys ih =>
    rw [identitiesAfter, identitiesAfter, List.find?_map]
    have hNamed : ((·.isNamed key) ∘ BoundField.refer rename) = (·.isNamed key) := rfl
    rw [hNamed]
    cases b.fields.find? (·.isNamed key) with
    | none => rfl
    | some f =>
      simp only [Option.map_some, BoundField.isMapped_refer, ih]
      rfl

/-- A relational descriptor maps no field that refers to a class, so it does not depend on what the
fields of the type refer to. -/
theorem describe_refer (s : Settings) (name : String) (t : BoundType) :
    describe s name (t.refer rename) = describe s name t := by
  have hBinding : (t.refer rename).binding =
      { t.binding with fields := t.binding.fields.map (BoundField.refer rename) } := rfl
  have hIdentities : identities (t.refer rename).binding = identities t.binding := by
    rw [hBinding]
    exact identitiesAfter_refer rename t.binding [] t.identities
  have hMapped : mappedFields (t.refer rename).binding = mappedFields t.binding := by
    rw [hBinding]
    exact mappedFields_refer rename t.binding
  have hDescriptor : withIdentities s name (t.refer rename).binding =
      withIdentities s name t.binding := by
    funext keys
    simp only [withIdentities, imports, constructorLines, fieldBlocks, plainProperties, hMapped]
    rfl
  rw [describe, describe, hIdentities, hDescriptor]

end Descriptor.Relational

theorem Generation.relationalClasses_refer (s : Settings) (t : BoundType) :
    relationalClasses s (t.refer rename) = relationalClasses s t := by
  rw [relationalClasses, relationalClasses, Descriptor.Relational.describe_refer]
  rfl

end Refer

/-! ## The classes of a generated type -/

namespace Generation

open Conflict Descriptor

variable {s : Settings} {t : BoundType} {f : BoundField} {className : String}

/-- The class mentions the type of a field, and means by it what the settings make of its name, just
if that name has a package or the class itself is in the package of the settings, unless the class
has asked for the other one as well. -/
structure RefersTo (s : Settings) (className : String) (c : ClassDecl) (names : List String) :
    Prop where
  mentions : Mentions c (simpleName className)
  denotes_iff : c.Denotes (s.qualify className) ↔
    isQualified className = true ∨ c.package = s.package ∨ s.package = "java.lang" ∨
      s.qualify className ∈ names

theorem refersTo_boundClass (hPackage : s.package ≠ "") (hField : f ∈ t.fields)
    (hContent : f.content = .bound className) :
    RefersTo s className (boundClass s t) (boundNames s t) where
  mentions := mentions_boundClass hField hContent
  denotes_iff :=
    (asked_boundClass s t).denotes_qualify_iff hPackage (mem_boundNames hField hContent)

theorem refersTo_xmlClasses (hPackage : s.package ≠ "") (hField : f ∈ t.fields)
    (hContent : f.content = .bound className) :
    List.Forall₂ (RefersTo s className) (xmlClasses s t)
      (if s.generateDescriptors then [Xml.imports s t] else []) := by
  have hAsked := asked_xmlClasses s t
  rw [xmlClasses] at hAsked ⊢
  split at hAsked
  · obtain ⟨hDescriptor, -⟩ := List.forall₂_cons.mp hAsked
    rename_i hDescriptors
    rw [if_pos hDescriptors, if_pos hDescriptors]
    refine .cons ⟨mentions_xml hField hContent _, ?_⟩ .nil
    exact hDescriptor.denotes_qualify_iff hPackage (mem_xmlImports hField hContent)
  · rename_i hDescriptors
    rw [if_neg hDescriptors, if_neg hDescriptors]
    exact .nil

/-- The classes of a type without a package are in the package of the settings. -/
theorem package_of_free (hPackage : s.package ≠ "") (hFree : isQualified t.name = false)
    (hSuffix : isQualified s.descriptorSuffix = false) :
    ∀ c ∈ boundClass s (qualifiedType s t) :: xmlClasses s (qualifiedType s t),
      c.package = s.package := by
  rw [List.forall_mem_cons, xmlClasses, ClassDecl.package, name_boundClass]
  refine ⟨Settings.packageName_qualify hPackage hFree, ?_⟩
  intro c hMem
  split at hMem
  · rw [List.mem_singleton.mp hMem, ClassDecl.package, Xml.name_describe]
    exact Settings.packageName_qualify_append hPackage hFree hSuffix
  · cases hMem

/-- Where there is a package, the classes that mention the type of a field are the bound class and
its XML descriptor. Both mean what the settings make of the name if it has a package, and otherwise
if they are in the package of the settings themselves, as those of a type without a package are. -/
theorem referent_denoted_iff {σ : Type} {g : Generator} {dialog : Option (Dialog σ)} {source : σ}
    {classes : List ClassDecl} (hPackage : g.settings.package ≠ "") (hField : f ∈ t.fields)
    (hContent : f.content = .bound className)
    (hOk : ((g.generate t).answer dialog source).value.2 = .ok classes) :
    ∃ bound relational,
      classes = bound :: (xmlClasses g.settings (qualifiedType g.settings t) ++ relational) ∧
      simpleName (g.settings.qualify className) = simpleName className ∧
      List.Forall₂ (RefersTo g.settings className)
        (bound :: xmlClasses g.settings (qualifiedType g.settings t))
        (boundNames g.settings (qualifiedType g.settings t) ::
          if g.settings.generateDescriptors then
            [Xml.imports g.settings (qualifiedType g.settings t)] else []) ∧
      (isQualified t.name = false → isQualified g.settings.descriptorSuffix = false →
        ∀ c ∈ bound :: xmlClasses g.settings (qualifiedType g.settings t),
          c.package = g.settings.package) ∧
      ∀ rename, relationalClasses g.settings ((qualifiedType g.settings t).refer rename) =
        .ok relational := by
  obtain ⟨-, ⟨relational, hRelational, hClasses⟩, -⟩ := (generate_step g t dialog source).of_ok hOk
  have hQualified : f ∈ (qualifiedType g.settings t).fields := hField
  refine ⟨_, relational, hClasses, Settings.simpleName_qualify _ _, ?_, ?_, ?_⟩
  · exact .cons (refersTo_boundClass hPackage hQualified hContent)
      (refersTo_xmlClasses hPackage hQualified hContent)
  · exact package_of_free hPackage
  · intro rename
    rw [relationalClasses_refer, hRelational]

/-- An order of one item, which is named without a package. -/
def orderOf (name : String) : BoundType :=
  { BoundType.ofName name with fields := [.single "item" (.bound "Item") "Item"] }

theorem referent_denoted_order :
    ∃ classes, (((Generator.ofStrategy Settings.packaged .informViaLog).generate
        (orderOf "Order")).answer (none : Option (Dialog Unit)) ()).value.2 = .ok classes ∧
      ∃ bound rest, classes = bound :: rest ∧ Mentions bound "Item" ∧
        bound.Denotes "org.example.Item" := by
  have hSome : (((Generator.ofStrategy Settings.packaged .informViaLog).generate
      (orderOf "Order")).answer (none : Option (Dialog Unit)) ()).value.2.toOption.isSome = true := by
    decide +kernel
  obtain ⟨classes, hOk⟩ := exists_ok_of_isSome hSome
  obtain ⟨bound, relational, rfl, -, hRefers, hPackages, -⟩ :=
    referent_denoted_iff (f := .single "item" (.bound "Item") "Item") (by decide)
      List.mem_cons_self rfl hOk
  obtain ⟨hBound, -⟩ := List.forall₂_cons.mp hRefers
  have hSame := hPackages (by decide) (by decide) bound List.mem_cons_self
  refine ⟨_, hOk, bound, _, rfl, hBound.mentions, ?_⟩
  exact hBound.denotes_iff.mpr (.inr (.inl hSame))

/-- The class `com.acme.Order` means `com.acme.Item` by a type that is called `Item`. -/
theorem referent_beside_owner :
    ¬ ∀ (s : Settings) (strategy : Strategy) (t : BoundType) (f : BoundField) (className : String)
      (classes : List ClassDecl), s.check = .ok () → s.package ≠ "" → t.validate = .ok () →
      f ∈ t.fields → f.content = .bound className →
      (((Generator.ofStrategy s strategy).generate t).answer (none : Option (Dialog Unit))
        ()).value.2 = .ok classes →
      ∀ c ∈ classes, Mentions c (simpleName className) → c.Denotes (s.qualify className) := by
  intro h
  have hSettings : Settings.packaged.check = .ok () := by decide +kernel
  have hValid : (orderOf "com.acme.Order").validate = .ok () := by decide +kernel
  have hSome : (((Generator.ofStrategy Settings.packaged .informViaLog).generate
      (orderOf "com.acme.Order")).answer (none : Option (Dialog Unit))
      ()).value.2.toOption.isSome = true := by
    decide +kernel
  obtain ⟨classes, hOk⟩ := exists_ok_of_isSome hSome
  obtain ⟨-, ⟨relational, -, hClasses⟩, -⟩ := (generate_step _ _ _ _).of_ok hOk
  have hField : BoundField.single "item" (.bound "Item") "Item" ∈
      (qualifiedType Settings.packaged (orderOf "com.acme.Order")).fields :=
    List.mem_cons_self
  have hRefers := refersTo_boundClass (s := Settings.packaged) (by decide) hField rfl
  have hDenotes := h Settings.packaged .informViaLog (orderOf "com.acme.Order")
    (.single "item" (.bound "Item") "Item") "Item" classes hSettings (by decide) hValid
    List.mem_cons_self rfl hOk _ (hClasses ▸ List.mem_cons_self) hRefers.mentions
  exact absurd (hRefers.denotes_iff.mp hDenotes) (by decide +kernel)

end Generation

end BeanGen
