import BeanGen.Proofs.Generation.Ancestry
import BeanGen.Proofs.Generation.Imports
import BeanGen.Proofs.Generation.Refusal

/-!
# Classes that continue those of a parent

A type names its parent, and the classes of the two are generated apart. They meet by name: what the
settings make of the parent's name is what they make of the name of the type that is meant, and the
descriptors of both have the same suffix behind it. So the bound class extends the bound class of the
parent, the XML descriptor extends the XML descriptor of the parent, and both can write the simple
name of what they extend, in whichever packages the two types lie. A relational descriptor has no
part in this.
-/

namespace BeanGen.Generation

open Conflict Descriptor Java

/-- The class extends that of a parent, and its simple name stands for that class. -/
structure Continues (c parent : ClassDecl) : Prop where
  superclass : c.superclass = some parent.localName
  denotes : c.Denotes parent.name

/-- The descriptor extends that of a parent, which gives the identity where the type has none of its
own. -/
structure ContinuesDescribing (c parent : ClassDecl) : Prop extends Continues c parent where
  extended : Extends c parent.name
  fallsBack : ∃ m, c.method? "getIdentity" = some m ∧ m.body.lines =
    [line "if (this._identity == null) \x7b", indented "return super.getIdentity();", line "\x7d",
      line "return this._identity;"]

/-- The XML descriptor that is generated for a type. -/
def xmlDescriptor (s : Settings) (t : BoundType) : ClassDecl :=
  Xml.describe s (Xml.nameFor s (s.qualify t.name)) (qualifiedType s t)

/-- Whenever the classes of the type are generated, they are these two, and a relational descriptor
if that is asked for, which extends the base of all such descriptors. They are generated where the
name of the type is free and no relational descriptor can be refused. -/
structure Yields (s : Settings) (t : BoundType) (bound descriptor : ClassDecl) : Prop where
  classes {σ : Type} {g : Generator} {dialog : Option (Dialog σ)} {source : σ}
    {classes : List ClassDecl} (hSettings : g.settings = s)
    (hOk : ((g.generate t).answer dialog source).value.2 = .ok classes) :
    ∃ relational, classes = bound :: descriptor :: relational ∧
      relational.length = (if s.generateJdoDescriptors then 1 else 0) ∧
      ∀ r ∈ relational, r.superclass = some (simpleName s.runtime.jdoDescriptorBase)
  free {σ : Type} {g : Generator} (dialog : Option (Dialog σ)) (source : σ)
    (hSettings : g.settings = s) (hFree : g.emitted? (s.qualify t.name) = none)
    (hRelational : s.generateJdoDescriptors = false) :
    ∃ classes, ((g.generate t).answer dialog source).value.2 = .ok classes

section Parent

variable {s : Settings} {t ancestor : BoundType} {parent : String}

theorem superclass?_of_parent (hParent : t.parent = some parent) :
    superclass? s (qualifiedType s t) = some (s.qualify parent) := by
  simp [superclass?, qualifiedType, hParent]

theorem isQualified_nameFor (h : isQualified parent = true) :
    isQualified (Xml.nameFor s parent) = true := by
  rw [isQualified] at h ⊢
  rw [Xml.nameFor, String.toList_append, List.any_append, h, Bool.true_or]

theorem continues_boundClass (hParent : t.parent = some parent)
    (hSame : s.qualify parent = s.qualify ancestor.name)
    (hPoint : isQualified (s.qualify ancestor.name) = true) :
    Continues (boundClass s (qualifiedType s t)) (boundClass s (qualifiedType s ancestor)) where
  superclass := by
    rw [superclass_boundClass, superclass?_of_parent hParent, hSame, Option.map_some,
      ClassDecl.localName, name_boundClass, name_qualifiedType]
  denotes := by
    rw [name_boundClass, name_qualifiedType]
    apply ((asked_boundClass s (qualifiedType s t)).denotes_iff hPoint).mpr
    simp [boundNames, superclass?_of_parent hParent, hSame]

theorem continuesDescribing_xmlDescriptor (hParent : t.parent = some parent)
    (hSame : s.qualify parent = s.qualify ancestor.name)
    (hPoint : isQualified (s.qualify ancestor.name) = true)
    (hOther : s.superClass ≠ some (s.qualify ancestor.name)) :
    ContinuesDescribing (xmlDescriptor s t) (xmlDescriptor s ancestor) := by
  have hDescribed : Xml.describedParent? s (qualifiedType s t) =
      some (s.qualify ancestor.name) := by
    rw [← hSame] at hOther ⊢
    exact describedParent?_of_ne hParent hOther
  have hName : (xmlDescriptor s ancestor).name = Xml.nameFor s (s.qualify ancestor.name) :=
    Xml.name_describe _ _ _
  have hExtends := extends_describe hDescribed (Xml.nameFor s (s.qualify t.name))
  rw [← hName] at hExtends
  refine ⟨⟨hExtends.superclass, ?_⟩, hExtends, ?_⟩
  · apply ((asked_describe s _ (qualifiedType s t)).denotes_iff ?_).mpr
    · simp [Xml.imports, Xml.superclass, hDescribed, hName]
    · rw [hName]
      exact isQualified_nameFor hPoint
  · refine ⟨_, method?_getIdentity s _ _, ?_⟩
    simp [Xml.getIdentity, Xml.extendsParent, hDescribed, MethodDecl.plain, Block.ofLines]

end Parent

theorem yields_classes {s : Settings} {t : BoundType} (hDescriptors : s.generateDescriptors = true)
    (hValid : (qualifiedType s t).Valid) :
    Yields s t (boundClass s (qualifiedType s t)) (xmlDescriptor s t) where
  classes := by
    rintro σ g dialog source classes rfl hOk
    obtain ⟨-, ⟨relational, hRelational, hClasses⟩, -⟩ :=
      (generate_step g t dialog source).of_ok hOk
    rw [xmlClasses, if_pos hDescriptors] at hClasses
    refine ⟨relational, hClasses, ?_⟩
    rcases relationalClasses_cases hRelational with ⟨hUnasked, rfl⟩ | ⟨hAsked, d, rfl, hDescribe⟩
    · simp [hUnasked]
    · obtain ⟨identities, -, rfl⟩ := exists_identities_of_describe hDescribe
      simp [hAsked, Relational.withIdentities]
  free := by
    rintro σ g dialog source rfl hFree hRelational
    exact Generator.exists_classes_of_free hValid hFree hRelational dialog source

/-- The classes of a type continue those of its parent: so do the bound classes, which can always be
built, and the descriptors, and these are what any generator with the settings gives. -/
theorem heir_continues_parent {s : Settings} {t ancestor : BoundType} {parent : String}
    (hDescriptors : s.generateDescriptors = true) (hAncestor : ancestor.validate = .ok ())
    (hHeir : t.validate = .ok ()) (hParent : t.parent = some parent)
    (hSame : s.qualify parent = s.qualify ancestor.name)
    (hPoint : isQualified (s.qualify ancestor.name) = true)
    (hOther : s.superClass ≠ some (s.qualify ancestor.name)) :
    ∃ inherited bound, buildClass s (qualifiedType s ancestor) = .ok inherited ∧
      buildClass s (qualifiedType s t) = .ok bound ∧
      Yields s ancestor inherited (xmlDescriptor s ancestor) ∧
      Yields s t bound (xmlDescriptor s t) ∧
      Continues bound inherited ∧
      ContinuesDescribing (xmlDescriptor s t) (xmlDescriptor s ancestor) := by
  have hQualified : ∀ u : BoundType, u.validate = .ok () → (qualifiedType s u).Valid := by
    intro u hValid
    exact valid_qualifiedType_iff.mpr (.inl (BoundType.validate_eq_ok_iff.mp hValid))
  have hBuild : ∀ u : BoundType, u.validate = .ok () →
      buildClass s (qualifiedType s u) = .ok (boundClass s (qualifiedType s u)) := by
    intro u hValid
    exact buildClass_of_check (BoundType.check_eq_ok_iff.mpr (hQualified u hValid)) s
  exact ⟨_, _, hBuild ancestor hAncestor, hBuild t hHeir,
    yields_classes hDescriptors (hQualified ancestor hAncestor),
    yields_classes hDescriptors (hQualified t hHeir),
    continues_boundClass hParent hSame hPoint,
    continuesDescribing_xmlDescriptor hParent hSame hPoint hOther⟩

/-- An order of another package, which calls the parent `Base` by its full name. -/
def distantHeir : BoundType :=
  { BoundType.ofName "com.acme.Order" with parent := some "org.example.Base" }

theorem heir_continues_parent_elsewhere :
    ∃ inherited bound,
      buildClass .packaged (qualifiedType .packaged (.ofName "Base")) = .ok inherited ∧
      buildClass .packaged (qualifiedType .packaged distantHeir) = .ok bound ∧
      bound.superclass = some "Base" ∧ bound.Denotes "org.example.Base" ∧
      Extends (xmlDescriptor .packaged distantHeir) "org.example.BaseDescriptor" := by
  obtain ⟨inherited, bound, hInherited, hBound, -, -, hContinues, hDescribing⟩ :=
    @heir_continues_parent .packaged distantHeir (.ofName "Base") "org.example.Base" rfl
      (by decide +kernel) (by decide +kernel) rfl (by decide) (by decide) (by decide)
  have hBase : (qualifiedType .packaged (.ofName "Base")).check = .ok () := by decide +kernel
  obtain rfl := Except.ok.inj ((buildClass_of_check hBase _).symm.trans hInherited)
  have hName : (xmlDescriptor .packaged (.ofName "Base")).name = "org.example.BaseDescriptor" :=
    (Xml.name_describe _ _ _).trans (by decide)
  have hExtended := hDescribing.extended
  rw [hName] at hExtended
  have hSuperclass := hContinues.superclass
  have hDenotes := hContinues.denotes
  rw [ClassDecl.localName, name_boundClass] at hSuperclass
  rw [name_boundClass] at hDenotes
  exact ⟨_, bound, hInherited, hBound, hSuperclass.trans (by decide), hDenotes, hExtended⟩

end BeanGen.Generation
