import BeanGen.Proofs.Descriptor.Ancestry
import BeanGen.Proofs.Java.Denotation

/-!
# Literals in the constructor of an XML descriptor

The constructor sets what the type is called in documents, and hands the two names of each field to
the descriptor of that field. The strings of the type are written as literals, whatever they are.
Those of a field are put between quotes as they are, so a name that has a quote, a backslash or a
line break does not reach the descriptor of the field.
-/

namespace BeanGen.Descriptor

open Java

/-! ## What the constructor should hand over -/

/-- The text is a literal for the value, or `null` where there is none. -/
def DenotesOptional (literal : String) : Option String → Prop
  | some value => Denotes literal value
  | none => literal = "null"

/-- The constructor sets each string of the type by a literal for it. -/
structure NamesType (t : BoundType) (c : ClassDecl) : Prop where
  uri : ∃ literal, DenotesOptional literal t.namespaceUri ∧
    line ("this._nsURI = " ++ literal ++ ";") ∈ constructorLines c
  nsPrefix : ∃ literal, DenotesOptional literal t.namespacePrefix ∧
    line ("this._nsPrefix = " ++ literal ++ ";") ∈ constructorLines c
  xmlName : ∃ literal, Denotes literal t.xmlName ∧
    line ("this._xmlName = " ++ literal ++ ";") ∈ constructorLines c

/-- The line that makes the descriptor of a field, with literals for its two names. -/
def namingLine (s : Settings) (f : BoundField) (literals : String × String) : Line :=
  line ("desc = new " ++ simpleName s.runtime.xmlFieldDescriptor ++ "(" ++
    f.valueType.classLiteral ++ ", " ++ (literals.1 ++ ", " ++ literals.2) ++ (", " ++
    simpleName s.runtime.nodeType ++ "." ++ f.node.constant ++ ");"))

/-- The block of a field, with literals for its two names. -/
def namingBlock (s : Settings) (t : BoundType) (f : BoundField) (literals : String × String) :
    List Line :=
  (Xml.fieldBlock s (simpleName t.name) (t.binding.isIdentity f) f).set 1
    (namingLine s f literals)

/-- The lines of the constructor, with literals for the two names of each field. -/
def namingLines (s : Settings) (t : BoundType) (literals : BoundField → String × String) :
    List Line :=
  Xml.openingLines s t ++ (if t.fields.isEmpty then [] else Xml.sharedVariables s) ++
    t.fields.flatMap fun f => line "" :: namingBlock s t f (literals f)

/-- In place of the names of each field the constructor has literals for them. -/
def NamesFields (s : Settings) (t : BoundType) (c : ClassDecl) : Prop :=
  ∃ literals : BoundField → String × String,
    (∀ f ∈ t.fields, Denotes (literals f).1 f.name ∧ Denotes (literals f).2 f.xmlName) ∧
      constructorLines c = namingLines s t literals

/-! ## What it hands over -/

theorem denotesOptional_optionalLiteral (value : Option String) :
    DenotesOptional (optionalLiteral value) value := by
  cases value with
  | none => rfl
  | some value => exact denotes_stringLiteral value

theorem namesType_describe (s : Settings) (name : String) (t : BoundType) :
    NamesType t (Xml.describe s name t) := by
  have hOpening : ∀ l ∈ Xml.openingLines s t, l ∈ constructorLines (Xml.describe s name t) := by
    intro l hLine
    rw [constructorLines_xml]
    exact List.mem_append_left _ (List.mem_append_left _ hLine)
  constructor
  · refine ⟨_, denotesOptional_optionalLiteral t.namespaceUri, hOpening _ ?_⟩
    simp [Xml.openingLines_eq]
  · refine ⟨_, denotesOptional_optionalLiteral t.namespacePrefix, hOpening _ ?_⟩
    simp [Xml.openingLines_eq]
  · refine ⟨_, denotes_stringLiteral t.xmlName, hOpening _ ?_⟩
    simp [Xml.openingLines_eq]

def quotedNames (f : BoundField) : String × String :=
  (quoted f.name, quoted f.xmlName)

theorem namingBlock_quotedNames (s : Settings) (t : BoundType) (f : BoundField) :
    namingBlock s t f (quotedNames f) =
      Xml.fieldBlock s (simpleName t.name) (t.binding.isIdentity f) f := by
  have hLine : namingLine s f (quotedNames f) =
      line ("desc = new " ++ simpleName s.runtime.xmlFieldDescriptor ++ "(" ++
        f.valueType.classLiteral ++ ", \"" ++ f.name ++ "\", \"" ++ f.xmlName ++ "\", " ++
        simpleName s.runtime.nodeType ++ "." ++ f.node.constant ++ ");") := by
    simp [namingLine, quotedNames, quoted, line, ← String.toList_inj]
  rw [namingBlock, hLine]
  rfl

theorem constructorLines_quotedNames (s : Settings) (name : String) (t : BoundType) :
    constructorLines (Xml.describe s name t) = namingLines s t quotedNames := by
  simp only [constructorLines_xml, namingLines, namingBlock_quotedNames]
  rfl

/-! ## Which names arrive -/

theorem flatMap_inj_of_length {α β : Type} {f g : α → List β} {xs : List α}
    (hLength : ∀ x ∈ xs, (f x).length = (g x).length) (h : xs.flatMap f = xs.flatMap g) :
    ∀ x ∈ xs, f x = g x := by
  induction xs with
  | nil => exact nofun
  | cons x xs ih =>
    obtain ⟨hx, hRest⟩ := List.forall_mem_cons.mp hLength
    rw [List.flatMap_cons, List.flatMap_cons] at h
    obtain ⟨hHead, hTail⟩ := List.append_inj h hx
    exact List.forall_mem_cons.mpr ⟨hHead, ih hRest hTail⟩

theorem plain_of_namesFields {s : Settings} {name : String} {t : BoundType}
    (h : NamesFields s t (Xml.describe s name t)) :
    ∀ f ∈ t.fields, Plain f.name ∧ Plain f.xmlName := by
  intro f hField
  obtain ⟨literals, hDenotes, hLines⟩ := h
  rw [constructorLines_quotedNames, namingLines, namingLines, List.append_cancel_left_eq] at hLines
  have hBlock := List.cons_inj_right _ |>.mp
    (flatMap_inj_of_length (by simp [namingBlock]) hLines f hField)
  have hLine : namingLine s f (quotedNames f) = namingLine s f (literals f) := by
    have hSecond := congrArg (·[1]?) hBlock
    simpa [namingBlock, Xml.fieldBlock, Xml.describingLines] using hSecond
  have hTexts := congrArg Line.text hLine
  simp only [namingLine, line, String.append_right_inj, String.append_left_inj] at hTexts
  exact plain_of_denotes_pair (hDenotes f hField).1 (hDenotes f hField).2 hTexts.symm

/-- The strings of the type arrive, whatever they are. The names of the fields do exactly if nothing
in them is interpreted between quotes. -/
theorem names_arrive_iff (s : Settings) (name : String) (t : BoundType) :
    NamesType t (Xml.describe s name t) ∧ (NamesFields s t (Xml.describe s name t) ↔
      ∀ f ∈ t.fields, Plain f.name ∧ Plain f.xmlName) := by
  refine ⟨namesType_describe s name t, plain_of_namesFields, ?_⟩
  intro hPlain
  refine ⟨quotedNames, ?_, constructorLines_quotedNames s name t⟩
  intro f hField
  obtain ⟨hName, hXmlName⟩ := hPlain f hField
  exact ⟨(denotes_quoted_iff f.name).mpr hName, (denotes_quoted_iff f.xmlName).mpr hXmlName⟩

/-- A field whose name in documents has a quote. -/
def remarkedType : BoundType :=
  { BoundType.ofName "Order" with
    fields := [{ BoundField.single "note" .string "Note" with externalName := some "a\"b" }] }

/-- The quote in the name ends the literal. -/
theorem quote_ends_literal :
    remarkedType.check = .ok () ∧
      ¬ NamesFields .standard remarkedType
        (Xml.describe .standard "OrderDescriptor" remarkedType) := by
  refine ⟨by decide +kernel, ?_⟩
  intro hNames
  have hPlain : ∀ f ∈ remarkedType.fields, Plain f.xmlName :=
    fun f hField => (plain_of_namesFields hNames f hField).2
  exact absurd hPlain (by decide)

end BeanGen.Descriptor
