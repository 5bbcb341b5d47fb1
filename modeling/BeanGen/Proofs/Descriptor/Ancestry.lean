import BeanGen.Proofs.Descriptor.Calls
import BeanGen.Proofs.Descriptor.Shape

/-!
# What XML descriptors extend

A descriptor that extends another says so in three places: it names the class that it extends, its
constructor has a line for it, and its identity falls back on the inherited one. All three follow
the parent that is described, and no other line of the constructor can be taken for such a line,
whatever the names and texts of the type.
-/

namespace BeanGen.Descriptor

open Java Text

def extensionText (descriptor : String) : String :=
  "setExtendsWithoutFlatten(new " ++ simpleName descriptor ++ "());"

/-- The text is one by which a descriptor extends another, of whatever class. -/
structure Extending (text : String) : Prop where
  starts : StartsWith "setExtendsWithoutFlatten(new " text
  ends : EndsWith "());" text

instance (text : String) : Decidable (Extending text) :=
  decidable_of_iff (StartsWith "setExtendsWithoutFlatten(new " text ∧ EndsWith "());" text)
    ⟨fun h => ⟨h.1, h.2⟩, fun h => ⟨h.starts, h.ends⟩⟩

def CallsParent (text : String) : Prop :=
  "super.getIdentity()".toList <:+: text.toList

instance (text : String) : Decidable (CallsParent text) :=
  inferInstanceAs (Decidable (_ <:+: _))

/-- The class extends the base of all descriptors and leaves no trace of a parent. -/
structure StandsAlone (s : Settings) (c : ClassDecl) : Prop where
  superclass : c.superclass = some (simpleName s.runtime.xmlDescriptorBase)
  constructor : ∀ l ∈ constructorLines c, ¬ Extending l.text
  identity : ∃ m, c.method? "getIdentity" = some m ∧ ∀ l ∈ m.body.lines, ¬ CallsParent l.text

/-- The class extends that descriptor, and no other. -/
structure Extends (c : ClassDecl) (descriptor : String) : Prop where
  superclass : c.superclass = some (simpleName descriptor)
  constructor : ∃ l ∈ constructorLines c, l.text = extensionText descriptor
  exclusive : ∀ l ∈ constructorLines c, Extending l.text → l.text = extensionText descriptor
  identity : ∃ m, c.method? "getIdentity" = some m ∧
    ∃ l ∈ m.body.lines, l.text = "return super.getIdentity();"

theorem extending_extensionText (descriptor : String) : Extending (extensionText descriptor) where
  starts := (startsWith_self_append _ (simpleName descriptor)).append _
  ends := endsWith_append_self _ _

/-! ## Lines that extend nothing -/

namespace Xml

theorem not_extending_of_mem_fieldBlock {s : Settings} {boundClass : String} {isIdentity : Bool}
    {f : BoundField} {l : Line} (hLine : l ∈ fieldBlock s boundClass isIdentity f) :
    ¬ Extending l.text := by
  have hFixed : ∀ p ∈ blockShape true true true [],
      p.Avoids "setExtendsWithoutFlatten(new " "());" := by
    decide +kernel
  intro hExtending
  obtain ⟨-, hText⟩ := maximum_of_mem_fieldBlock s boundClass f hFixed hLine hExtending.starts
    hExtending.ends
  exact not_startsWith_append (by decide) _ (hText ▸ hExtending.starts)

/-- The line for the parent that is described is the only one that extends anything. -/
theorem extending_of_mem_constructorLines {s : Settings} {t : BoundType} {l : Line}
    (hLine : l ∈ constructorLines s t) (hExtending : Extending l.text) :
    ∃ p, describedParent? s t = some p ∧ l.text = extensionText (nameFor s p) := by
  have hOwn : ∀ p ∈ ownShape [] true, p.Avoids "setExtendsWithoutFlatten(new " "());" := by
    decide +kernel
  rw [constructorLines_eq, List.mem_append, List.mem_flatMap] at hLine
  rcases hLine with hLine | ⟨f, -, hLine⟩
  · obtain ⟨pattern, hPattern, hFits⟩ := (follow_ownLines s t).exists_fits hLine
    rcases mem_ownShape hPattern with hExtension | hShape
    · simp only [extensionShape, Option.mem_toList, Option.map_eq_some_iff] at hExtension
      obtain ⟨p, hParent, rfl⟩ := hExtension
      exact ⟨p, hParent, hFits⟩
    · exact absurd hFits ((hOwn _ hShape).not_fits hExtending.starts hExtending.ends)
  · rcases List.mem_cons.mp hLine with rfl | hLine
    · exact absurd hExtending (by decide)
    · exact absurd hExtending (not_extending_of_mem_fieldBlock hLine)

theorem openingLines_eq (s : Settings) (t : BoundType) :
    openingLines s t = [line "super();"] ++
      ((describedParent? s t).map fun p => line (extensionText (nameFor s p))).toList ++
      [line ("this._nsURI = " ++ optionalLiteral t.namespaceUri ++ ";"),
        line ("this._nsPrefix = " ++ optionalLiteral t.namespacePrefix ++ ";"),
        line ("this._xmlName = " ++ stringLiteral t.xmlName ++ ";"),
        line ("this._elementDefinition = " ++ booleanLiteral t.elementDefinition ++ ";")] := by
  rw [openingLines]
  cases describedParent? s t <;> rfl

theorem exists_extension_line {s : Settings} {t : BoundType} {p : String}
    (h : describedParent? s t = some p) :
    ∃ l ∈ constructorLines s t, l.text = extensionText (nameFor s p) := by
  refine ⟨line (extensionText (nameFor s p)), ?_, rfl⟩
  rw [constructorLines, openingLines_eq, h]
  simp

end Xml

/-! ## The three places -/

section Describe

variable {s : Settings} {t : BoundType}

theorem method?_getIdentity (s : Settings) (name : String) (t : BoundType) :
    (Xml.describe s name t).method? "getIdentity" = some (Xml.getIdentity s t) := by
  rfl

theorem extends_describe {p : String} (h : Xml.describedParent? s t = some p) (name : String) :
    Extends (Xml.describe s name t) (Xml.nameFor s p) where
  superclass := by simp [Xml.describe, Xml.superclass, h]
  constructor := by
    rw [constructorLines_xml]
    exact Xml.exists_extension_line h
  exclusive l hLine hExtending := by
    rw [constructorLines_xml] at hLine
    obtain ⟨q, hParent, hText⟩ := Xml.extending_of_mem_constructorLines hLine hExtending
    rw [h] at hParent
    cases hParent
    exact hText
  identity := by
    refine ⟨_, method?_getIdentity s name t, indented "return super.getIdentity();", ?_, rfl⟩
    simp [Xml.getIdentity, Xml.extendsParent, h, MethodDecl.plain, Block.ofLines]

theorem standsAlone_describe (h : Xml.describedParent? s t = none) (name : String) :
    StandsAlone s (Xml.describe s name t) where
  superclass := by simp [Xml.describe, Xml.superclass, h]
  constructor l hLine hExtending := by
    rw [constructorLines_xml] at hLine
    obtain ⟨p, hParent, -⟩ := Xml.extending_of_mem_constructorLines hLine hExtending
    rw [h] at hParent
    cases hParent
  identity := by
    have hBody : (Xml.getIdentity s t).body.lines = [line "return this._identity;"] := by
      simp [Xml.getIdentity, Xml.extendsParent, h, MethodDecl.plain, Block.ofLines]
    refine ⟨_, method?_getIdentity s name t, ?_⟩
    rw [hBody]
    decide

theorem Extends.not_standsAlone {c : ClassDecl} {descriptor : String} (h : Extends c descriptor) :
    ¬ StandsAlone s c := by
  intro hAlone
  obtain ⟨l, hLine, hText⟩ := h.constructor
  apply hAlone.constructor l hLine
  rw [hText]
  exact extending_extensionText descriptor

theorem standsAlone_describe_iff (s : Settings) (name : String) (t : BoundType) :
    StandsAlone s (Xml.describe s name t) ↔ Xml.describedParent? s t = none := by
  cases hParent : Xml.describedParent? s t with
  | none => exact iff_of_true (standsAlone_describe hParent name) rfl
  | some p => exact iff_of_false (extends_describe hParent name).not_standsAlone nofun

end Describe

end BeanGen.Descriptor
