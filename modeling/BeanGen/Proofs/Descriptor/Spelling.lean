import BeanGen.Descriptor.Relational
import BeanGen.Descriptor.Xml
import BeanGen.Proofs.Accessor.Spelling
import BeanGen.Proofs.Descriptor.Identities

/-!
# How descriptors are spelled

The texts of a descriptor are fixed but for the classes of the runtime, which the settings name, and
for what the type and its fields supply. Whatever class they name, the descriptor imports.
-/

namespace BeanGen

open Java Accessor

/-- What a field supplies to the text of descriptors: names, literals and variables. -/
def BoundField.descriptorTexts (f : BoundField) : List String :=
  [f.xmlName, stringLiteral f.property, stringLiteral f.sqlName] ++
    [.fieldName, .sqlName, .descriptor, .mapping, .type, .handler, .getMethod, .setMethod, .nature,
      .sql].map (Descriptor.Relational.variableName f.property)

/-- The literals that a type supplies to the text of descriptors. -/
def BoundType.descriptorTexts (t : BoundType) : List String :=
  [optionalLiteral t.namespaceUri, optionalLiteral t.namespacePrefix, stringLiteral t.xmlName,
    stringLiteral t.name, stringLiteral (Descriptor.Relational.tableName t.binding)]

namespace Descriptor

variable {supplied named : String → Prop}

/-- What a type and its fields supply is known. -/
structure KnownType (supplied : String → Prop) (t : BoundType) : Prop where
  texts : ∀ text ∈ t.descriptorTexts, supplied text
  fieldTexts : ∀ f ∈ t.fields, ∀ text ∈ f.texts ++ f.descriptorTexts, supplied text

namespace KnownType

variable {t : BoundType} {f : BoundField} (k : KnownType supplied t)
include k

theorem known (hField : f ∈ t.fields) (hContent : f.content.Named named) :
    Known supplied named f where
  texts text hText := k.fieldTexts f hField text (List.mem_append_left _ hText)
  content := hContent

theorem fieldText (hField : f ∈ t.fields) {text : String} (hText : text ∈ f.descriptorTexts) :
    Spelled supplied named text :=
  .supplied (k.fieldTexts f hField text (List.mem_append_right _ hText))

theorem text {text : String} (hText : text ∈ t.descriptorTexts) : Spelled supplied named text :=
  .supplied (k.texts text hText)

end KnownType

theorem spelled_booleanLiteral (b : Bool) : Spelled supplied named (booleanLiteral b) := by
  cases b <;> exact .plain (by decide)

theorem spelled_runtimeName (mode : AccessMode) : Spelled supplied named mode.runtimeName := by
  cases mode <;> exact .plain (by decide)

namespace Xml

/-! ## The block of a field in an XML descriptor -/

section Field

variable {s : Settings} {f : BoundField} {boundClass : String}

theorem spells_override {head : String} {ls : List Line}
    (hHead : Spelled supplied named head) (h : Spells supplied named ls) :
    Spells supplied named (override head ls) := by
  simp only [override, spells_append, spells_cons, spells_nil, spells_nested, text_line, and_true]
  exact ⟨⟨⟨.plain (by decide), .enclosed (by decide) hHead (by decide)⟩, h⟩,
    .plain (by decide)⟩

theorem spells_guarded {ls : List Line} (h : Spells supplied named ls) :
    Spells supplied named (guarded ls) := by
  simp only [guarded, spells_append, spells_cons, spells_nil, spells_nested, text_line,
    text_indented, and_true]
  exact ⟨⟨.plain (by decide), h⟩, .plain (by decide), .plain (by decide), .plain (by decide)⟩

theorem spelled_targetLine (h : Spelled supplied named boundClass) :
    Spelled supplied named (targetLine boundClass).text :=
  ((h.followed _ (by decide)).append h).followed _ (by decide)

variable (k : Known supplied named f)
include k

theorem spelled_handedValue : Spelled supplied named (handedValue s f) := by
  rw [handedValue]
  split
  · exact .enclosed (by decide) k.content.writtenBoxed (by decide)
  · exact k.content.fromObject (.plain (by decide))

theorem spelled_fetchedValue : Spelled supplied named (fetchedValue f) := by
  have hCall : Spelled supplied named ("target." ++ f.readMethod ++ "()") :=
    .enclosed (by decide) k.readMethod (by decide)
  simp only [fetchedValue]
  split
  · exact hCall
  · exact ContentKind.spelled_toObject hCall

theorem spelled_mutator : Spelled supplied named (mutator f) := by
  rw [mutator]
  split
  · exact .append (.plain (by decide)) k.suffix
  · exact k.writeMethod

theorem spells_handlerLines (hClass : Spelled supplied named boundClass) :
    Spells supplied named (handlerLines s boundClass f) := by
  have hTarget := spelled_targetLine hClass
  have hGet : Spells supplied named (getValueLines boundClass f) := by
    refine spells_override (.plain (by decide)) ?_
    simp only [spells_cons, spells_nil, text_line, and_true]
    exact ⟨hTarget, .enclosed (by decide) (spelled_fetchedValue k) (by decide)⟩
  have hSet : Spells supplied named (setValueLines s boundClass f) := by
    refine spells_override (.append (.plain (by decide)) (.plain (by decide))) (spells_guarded ?_)
    simp only [spells_cons, spells_nil, text_line, and_true]
    exact ⟨hTarget, ((Spelled.enclosed (by decide) (spelled_mutator k) (by decide)).append
      (spelled_handedValue k)).followed _ (by decide)⟩
  have hReset : Spells supplied named (resetValueLines boundClass f) := by
    refine spells_override (.plain (by decide)) (spells_guarded ?_)
    simp only [spells_cons, spells_nil, text_line, and_true]
    exact ⟨hTarget, .enclosed (by decide) k.suffix (by decide)⟩
  have hNew : Spells supplied named newInstanceLines := by
    refine spells_override (.plain (by decide)) ?_
    simp only [spells_cons, spells_nil, text_line, and_true]
    exact .plain (by decide)
  have hBlank : Spelled supplied named "" := .plain (by decide)
  simp only [handlerLines, spells_append, spells_ite, spells_cons, spells_nil, text_line, and_true,
    implies_true, hGet, hSet, hReset, hNew, hBlank]

end Field

/-! ## An XML descriptor -/

/-- What the text of an XML descriptor relies on is known. -/
structure Supplied (supplied named : String → Prop) (s : Settings) (t : BoundType) : Prop
    extends KnownType supplied t where
  imports : ∀ q ∈ Xml.imports s t, named q

namespace Supplied

variable {s : Settings} {t : BoundType} (k : Supplied supplied named s t)
include k

theorem superclass : Spelled supplied named (simpleName (Xml.superclass s t)) :=
  .className (k.imports _ (by simp [Xml.imports]))

theorem boundClass : Spelled supplied named (simpleName t.name) :=
  .className (k.imports _ (by simp [Xml.imports]))

theorem fieldDescriptor : Spelled supplied named (simpleName s.runtime.fieldDescriptor) :=
  .className (k.imports _ (by simp [Xml.imports]))

theorem xmlFieldDescriptor : Spelled supplied named (simpleName s.runtime.xmlFieldDescriptor) :=
  .className (k.imports _ (by simp [Xml.imports]))

theorem xmlFieldHandler : Spelled supplied named (simpleName s.runtime.xmlFieldHandler) :=
  .className (k.imports _ (by simp [Xml.imports]))

theorem fieldValidator : Spelled supplied named (simpleName s.runtime.fieldValidator) :=
  .className (k.imports _ (by simp [Xml.imports]))

theorem nodeType : Spelled supplied named (simpleName s.runtime.nodeType) :=
  .className (k.imports _ (by simp [Xml.imports]))

theorem typeValidator : Spelled supplied named (simpleName s.runtime.typeValidator) :=
  .className (k.imports _ (by simp [Xml.imports]))

theorem accessMode : Spelled supplied named (simpleName s.runtime.accessMode) :=
  .className (k.imports _ (by simp [Xml.imports]))

theorem describedParent {p : String} (hParent : describedParent? s t = some p) :
    Spelled supplied named (simpleName (nameFor s p)) :=
  .className (k.imports _ (by simp [Xml.imports, hParent]))

theorem validator {v : String} (hValidator : t.validator = some v) :
    Spelled supplied named (simpleName v) :=
  .className (k.imports _ (by simp [Xml.imports, hValidator]))

variable {f : BoundField}

theorem field (hField : f ∈ t.fields) : Known supplied named f := by
  refine k.known hField fun q hq => k.imports q ?_
  have hContent : q ∈ t.fields.flatMap (·.valueType.imports) :=
    List.mem_flatMap.mpr ⟨f, hField, hq⟩
  simp only [Xml.imports, List.mem_append, hContent, true_or, or_true]

omit k in
theorem nodeConstant : Spelled supplied named ("." ++ (f.node.constant ++ ");")) := by
  cases f.node <;> exact .fixed (List.forall_mem_nil _) (by decide)

theorem newDescriptor (hField : f ∈ t.fields) :
    Spelled supplied named ("desc = new " ++ simpleName s.runtime.xmlFieldDescriptor ++ "(" ++
      f.valueType.classLiteral ++ ", \"" ++ f.name ++ "\", \"" ++ f.xmlName ++ "\", " ++
      simpleName s.runtime.nodeType ++ "." ++ f.node.constant ++ ");") := by
  have hName := (k.field hField).name
  have hClass : Spelled supplied named f.valueType.classLiteral :=
    (k.field hField).written.followed _ (by decide)
  have hXmlName : Spelled supplied named f.xmlName :=
    k.fieldText hField (by simp [BoundField.descriptorTexts])
  have hDescriptor := k.xmlFieldDescriptor
  have hNode := k.nodeType
  rw [String.append_assoc, String.append_assoc]
  refine .append ?_ nodeConstant
  repeat' with_reducible apply Spelled.append
  all_goals first | assumption | exact .plain (by decide)

theorem describingLines (isIdentity : Bool) (hField : f ∈ t.fields) :
    Spells supplied named (Xml.describingLines s (simpleName t.name) isIdentity f) := by
  have hOpens : OpensComment "//-- " := by decide
  have hComment : Spelled supplied named ("//-- " ++ f.name) := .comment (hOpens.append _)
  have hNew := k.newDescriptor hField
  have hHandler : Spelled supplied named
      ("handler = new " ++ simpleName s.runtime.xmlFieldHandler ++ "() \x7b") :=
    .enclosed (by decide) k.xmlFieldHandler (by decide)
  have hLines := spells_handlerLines (s := s) (k.field hField) k.boundClass
  have hMany : Spelled supplied named
      ("desc.setMultivalued(" ++ booleanLiteral f.isCollection ++ ");") :=
    .enclosed (by decide) (spelled_booleanLiteral _) (by decide)
  simp only [Xml.describingLines, spells_append, spells_ite, spells_cons, spells_nil, spells_nested,
    text_line, and_true, implies_true, true_and, hComment, hNew, hHandler, hLines, hMany]
  and_intros
  all_goals try intro
  all_goals exact .plain (by decide)

theorem validatingLines (hField : f ∈ t.fields) :
    Spells supplied named (Xml.validatingLines s f) := by
  have hOpens : OpensComment "//-- validation code for: " := by decide
  have hComment : Spelled supplied named ("//-- validation code for: " ++ f.name) :=
    .comment (hOpens.append _)
  have hNew : Spelled supplied named
      ("fieldValidator = new " ++ simpleName s.runtime.fieldValidator ++ "();") :=
    .enclosed (by decide) k.fieldValidator (by decide)
  have hMany : Spelled supplied named
      ("fieldValidator.setMaxOccurs(" ++ toString f.maxSize ++ ");") := by
    refine .enclosed (by decide) (.supplied ((k.field hField).texts _ ?_)) (by decide)
    simp [BoundField.texts]
  simp only [Xml.validatingLines, spells_append, spells_ite, spells_cons, spells_nil, text_line,
    and_true, implies_true, hComment, hNew, hMany, true_and]
  exact ⟨fun _ => .plain (by decide), .plain (by decide)⟩

theorem fieldBlocks : Spells supplied named (Xml.fieldBlocks s t.binding) := by
  rw [Xml.fieldBlocks, spells_flatMap]
  intro f hField
  rw [spells_cons, Xml.fieldBlock, spells_append, spells_append, spells_cons]
  exact ⟨.plain (by decide), ⟨k.describingLines _ hField, .plain (by decide), spells_nil⟩,
    k.validatingLines hField⟩

theorem openingLines : Spells supplied named (Xml.openingLines s t) := by
  have hExtension : ∀ p, describedParent? s t = some p → Spelled supplied named
      ("setExtendsWithoutFlatten(new " ++ simpleName (nameFor s p) ++ "());") :=
    fun p hParent => .enclosed (by decide) (k.describedParent hParent) (by decide)
  have hUri : Spelled supplied named ("this._nsURI = " ++ optionalLiteral t.namespaceUri ++ ";") :=
    .enclosed (by decide) (k.text (by simp [BoundType.descriptorTexts])) (by decide)
  have hPrefix : Spelled supplied named
      ("this._nsPrefix = " ++ optionalLiteral t.namespacePrefix ++ ";") :=
    .enclosed (by decide) (k.text (by simp [BoundType.descriptorTexts])) (by decide)
  have hName : Spelled supplied named ("this._xmlName = " ++ stringLiteral t.xmlName ++ ";") :=
    .enclosed (by decide) (k.text (by simp [BoundType.descriptorTexts])) (by decide)
  have hElement : Spelled supplied named
      ("this._elementDefinition = " ++ booleanLiteral t.elementDefinition ++ ";") :=
    .enclosed (by decide) (spelled_booleanLiteral _) (by decide)
  simp only [Xml.openingLines, spells_append, spells_cons, spells_nil, text_line, and_true]
  refine ⟨⟨.plain (by decide), ?_⟩, hUri, hPrefix, hName, hElement⟩
  split
  · rename_i p hParent
    simpa using hExtension p hParent
  · exact spells_nil

theorem sharedVariables : Spells supplied named (Xml.sharedVariables s) := by
  simp only [Xml.sharedVariables, spells_cons, spells_nil, text_line, and_true]
  exact ⟨.plain (by decide), k.xmlFieldDescriptor.followed _ (by decide),
    k.xmlFieldHandler.followed _ (by decide), k.fieldValidator.followed _ (by decide)⟩

theorem constructorLines : Spells supplied named (Xml.constructorLines s t) := by
  rw [Xml.constructorLines, spells_append, spells_append, spells_ite]
  exact ⟨⟨k.openingLines, fun _ => spells_nil, fun _ => k.sharedVariables⟩, k.fieldBlocks⟩

theorem members : ∀ d ∈ Xml.members s, ∀ text ∈ d.codeTexts, Spelled supplied named text := by
  have hIdentity := k.fieldDescriptor
  simp only [Xml.members, FieldDecl.documented, FieldDecl.plain, FieldDecl.codeTexts,
    List.forall_mem_cons, Option.toList_none, List.not_mem_nil, false_implies, implies_true,
    and_true]
  exact ⟨.plain (by decide), .plain (by decide), .plain (by decide), .plain (by decide), hIdentity⟩

/-! ### Accessors -/

theorem getIdentity : ∀ text ∈ (Xml.getIdentity s t).codeTexts, Spelled supplied named text := by
  refine MethodDecl.spelled_plain (List.forall_mem_singleton.mpr k.fieldDescriptor) (by simp) ?_
  simp only [spells_append, spells_ite, spells_cons, spells_nil, text_line, text_indented, and_true,
    implies_true]
  exact ⟨fun _ => ⟨.plain (by decide), .plain (by decide), .plain (by decide)⟩, .plain (by decide)⟩

theorem getValidator :
    ∀ text ∈ (Xml.getValidator s t.binding).codeTexts, Spelled supplied named text := by
  refine MethodDecl.spelled_reading k.typeValidator (.enclosed (by decide) ?_ (by decide))
  split
  · rename_i v hValidator
    exact .enclosed (by decide) (k.validator hValidator) (by decide)
  · exact .plain (by decide)

theorem getAccessMode :
    ∀ text ∈ (Xml.getAccessMode s t.binding).codeTexts, Spelled supplied named text := by
  refine MethodDecl.spelled_reading k.accessMode (.enclosed (by decide) ?_ (by decide))
  split
  · rename_i mode hMode
    exact ((k.accessMode.followed _ (by decide)).append (spelled_runtimeName mode)).followed _
      (by decide)
  · exact .plain (by decide)

theorem methods : ∀ m ∈ Xml.methods s t, ∀ text ∈ m.codeTexts, Spelled supplied named text := by
  have hClass : Spelled supplied named ("return " ++ simpleName t.name ++ ".class;") :=
    .enclosed (by decide) k.boundClass (by decide)
  simp only [Xml.methods, List.forall_mem_cons]
  refine ⟨?_, ?_, ?_, k.getValidator, ?_, k.getAccessMode, k.getIdentity,
    MethodDecl.spelled_reading (.plain (by decide)) hClass, by simp⟩
  all_goals exact MethodDecl.spelled_reading (.plain (by decide)) (.plain (by decide))

/-- Whatever class an XML descriptor names, it imports. -/
theorem describe (name : String) :
    (Xml.describe s name t).IsSpelled supplied named := by
  have hSuperclass : Spelled supplied named (simpleName (simpleName (Xml.superclass s t))) := by
    rw [simpleName_simpleName]
    exact k.superclass
  obtain ⟨imports, hImports⟩ := (ClassDecl.ofName name).exists_addImports_eq (Xml.imports s t)
  rw [Xml.describe, hImports]
  exact ⟨List.forall_mem_singleton.mpr hSuperclass, k.members, k.methods,
    List.forall_mem_singleton.mpr (ConstructorDecl.spelled_plain k.constructorLines)⟩

end Supplied

end Xml

/-! ## A relational descriptor -/

namespace Relational

/-- The simple names of the classes of a mapping. -/
def mappingNames : List String :=
  ["ClassMapping", "ClassChoice", "MapTo", "FieldMapping", "Sql", "FieldDescriptorImpl",
    "FieldHandlerImpl", "TypeInfo", "FieldDescriptor", "MappingException",
    "ClassDescriptorJDONature", "FieldDescriptorJDONature", "Method"]

theorem simpleName_mappingClasses : mappingClasses.map simpleName = mappingNames := by
  simp only [mappingClasses, mappingNames, List.map_cons, List.map_nil, List.cons.injEq, and_true]
  and_intros
  all_goals exact simpleName_ofList rfl

def mappingWords : Vocabulary mappingNames where
  words := Vocabulary.builtIn.words ++ [_, _, _, _, _, _, _, _, _, _, _, _, _]
  eq_words := rfl

/-- What the text of a relational descriptor relies on is known. -/
structure Supplied (supplied named : String → Prop) (s : Settings) (t : BoundType) : Prop
    extends KnownType supplied t where
  imports : ∀ q ∈ Relational.imports s t.binding, named q

namespace Supplied

variable {s : Settings} {t : BoundType} (k : Supplied supplied named s t)
include k

theorem superclass : Spelled supplied named (simpleName s.runtime.jdoDescriptorBase) :=
  .className (k.imports _ (by simp [Relational.imports]))

theorem accessMode : Spelled supplied named (simpleName s.runtime.accessMode) :=
  .className (k.imports _ (by simp [Relational.imports]))

theorem boundClass : Spelled supplied named (simpleName t.name) :=
  .className (k.imports _ (by simp [Relational.imports, BoundType.binding]))

/-- A fixed text that names classes of the mapping. -/
theorem mapping {cs : List Char} (hText : mappingWords.covers cs = true) :
    Spelled supplied named (String.ofList cs) := by
  have hKnown : ∀ q ∈ mappingClasses, named q := by
    intro q hq
    refine k.imports q ?_
    simp only [Relational.imports, List.cons_append, List.mem_cons, List.mem_append, hq, true_or,
      or_true]
  refine .fixed hKnown ?_
  rw [namesOnly, simpleName_mappingClasses, mappingWords.namesAmong_ofList]
  exact hText

variable {f : BoundField}

theorem field (hField : f ∈ mappedFields t.binding) : Known supplied named f := by
  refine k.known (mem_mappedFields.mp hField).1 fun q hq => k.imports q ?_
  have hContent : q ∈ (mappedFields t.binding).flatMap (·.valueType.imports) :=
    List.mem_flatMap.mpr ⟨f, hField, hq⟩
  simp only [Relational.imports, List.mem_append, hContent, or_true]

theorem variableName (hField : f ∈ mappedFields t.binding) (v : Local) :
    Spelled supplied named (variableName f.property v) := by
  refine k.fieldText (mem_mappedFields.mp hField).1 ?_
  cases v <;> simp [BoundField.descriptorTexts]

theorem propertyLiteral (hField : f ∈ mappedFields t.binding) :
    Spelled supplied named (stringLiteral f.property) :=
  k.fieldText (mem_mappedFields.mp hField).1 (by simp [BoundField.descriptorTexts])

theorem sqlLiteral (hField : f ∈ mappedFields t.binding) :
    Spelled supplied named (stringLiteral f.sqlName) :=
  k.fieldText (mem_mappedFields.mp hField).1 (by simp [BoundField.descriptorTexts])

theorem declaringLines (isIdentity : Bool) (hField : f ∈ mappedFields t.binding) :
    Spells supplied named (Relational.declaringLines isIdentity f) := by
  have hOpens : OpensComment "//" := by decide
  have hComment : Spelled supplied named ("//" ++ f.property ++ " field") :=
    .comment ((hOpens.append _).append _)
  have hColumns : Spelled supplied named "// Set columns required (= not null)" :=
    .comment (by decide)
  have hVariable := k.variableName hField
  have hProperty := k.propertyLiteral hField
  have hSql := k.sqlLiteral hField
  have hBoxed : Spelled supplied named f.valueType.writtenBoxed :=
    (k.field hField).content.writtenBoxed
  have hRequired : Spelled supplied named (booleanLiteral (isRequired isIdentity f)) :=
    spelled_booleanLiteral _
  simp only [Relational.declaringLines, spells_cons, spells_nil, text_line, and_true]
  and_intros
  all_goals try with_reducible assumption
  all_goals repeat' with_reducible apply Spelled.append
  all_goals with_reducible first
    | assumption
    | exact hVariable _
    | exact k.mapping (by decide +kernel)

theorem handlerLines (hField : f ∈ mappedFields t.binding) :
    Spells supplied named (Relational.handlerLines (simpleName t.name) f) := by
  have hVariable := k.variableName hField
  have hClass := k.boundClass
  have hRead := (k.field hField).readMethod
  have hWrite := (k.field hField).writeMethod
  have hValue : Spelled supplied named f.valueType.classLiteral :=
    (k.field hField).written.followed _ (by decide)
  simp only [Relational.handlerLines, rescueLines, spells_append, spells_cons, spells_nil,
    text_line, text_indented, and_true]
  and_intros
  all_goals repeat' with_reducible apply Spelled.append
  all_goals with_reducible first
    | assumption
    | exact hVariable _
    | exact k.mapping (by decide +kernel)

omit k in
theorem columnConstant : Spelled supplied named f.valueType.columnConstant := by
  rw [BoundField.valueType]
  cases f.content with
  | bound =>
    show Spelled supplied named ("java.sql.Types." ++ Text.asciiUpper "varchar")
    exact .fixed (List.forall_mem_nil _) (by decide +kernel)
  | _ => exact .fixed (List.forall_mem_nil _) (by decide +kernel)

omit k in
theorem columnType : Spelled supplied named f.valueType.columnType := by
  rw [BoundField.valueType]
  cases f.content with
  | _ => exact .plain (by decide)

theorem columnLines (hField : f ∈ mappedFields t.binding) :
    Spells supplied named (Relational.columnLines f) := by
  have hOpens : OpensComment "// Instantiate " := by decide
  have hComment : Spelled supplied named ("// Instantiate " ++ f.property ++ " field descriptor") :=
    .comment ((hOpens.append _).append _)
  have hVariable := k.variableName hField
  have hConstant : Spelled supplied named f.valueType.columnConstant := columnConstant
  simp only [Relational.columnLines, spells_cons, spells_nil, text_line, and_true]
  and_intros
  all_goals try with_reducible assumption
  all_goals repeat' with_reducible apply Spelled.append
  all_goals with_reducible first
    | assumption
    | exact hVariable _
    | exact k.mapping (by decide +kernel)

theorem mappingLines (isIdentity : Bool) (hField : f ∈ mappedFields t.binding) :
    Spells supplied named (Relational.mappingLines isIdentity f) := by
  have hVariable := k.variableName hField
  have hProperty := (k.field hField).property
  have hRead := (k.field hField).readMethod
  have hWrite := (k.field hField).writeMethod
  have hSql := k.sqlLiteral hField
  have hColumn : Spelled supplied named f.valueType.columnType := columnType
  have hIdentity : Spelled supplied named (booleanLiteral isIdentity) := spelled_booleanLiteral _
  have hRequired : Spelled supplied named (booleanLiteral (isRequired isIdentity f)) :=
    spelled_booleanLiteral _
  simp only [Relational.mappingLines, spells_cons, spells_nil, text_line, and_true]
  and_intros
  all_goals repeat' with_reducible apply Spelled.append
  all_goals with_reducible first
    | assumption
    | exact hVariable _
    | exact k.mapping (by decide +kernel)

theorem fieldBlocks : Spells supplied named (Relational.fieldBlocks t.binding) := by
  rw [Relational.fieldBlocks, spells_flatMap]
  intro f hField
  rw [spells_cons, Relational.fieldBlock, spells_append, spells_append, spells_append]
  exact ⟨.plain (by decide), ⟨⟨k.declaringLines _ hField, k.handlerLines hField⟩,
    k.columnLines hField⟩, k.mappingLines _ hField⟩

theorem openingLines : Spells supplied named (Relational.openingLines s t.binding) := by
  have hTable : Spelled supplied named (stringLiteral (tableName t.binding)) :=
    k.text (by simp [BoundType.descriptorTexts])
  have hName : Spelled supplied named (stringLiteral t.binding.boundClass) :=
    k.text (by simp [BoundType.descriptorTexts, BoundType.binding])
  have hClass : Spelled supplied named (simpleName t.binding.boundClass) := k.boundClass
  have hModes := k.accessMode
  have hMode : Spelled supplied named (t.binding.accessMode.getD .standard).runtimeName :=
    spelled_runtimeName _
  simp only [Relational.openingLines, spells_cons, spells_nil, text_line, and_true]
  and_intros
  all_goals repeat' with_reducible apply Spelled.append
  all_goals with_reducible first | assumption | exact k.mapping (by decide +kernel)

theorem fieldList {properties : List String}
    (hMapped : ∀ p ∈ properties, ∃ f ∈ mappedFields t.binding, f.property = p) :
    Spelled supplied named (descriptorList properties) := by
  refine Spelled.intercalate (.plain (by decide)) (List.forall_mem_map.mpr ?_)
  intro p hp
  obtain ⟨f, hField, rfl⟩ := hMapped p hp
  exact k.variableName hField .descriptor

theorem closingLines {keys : List String} (hKeys : identities t.binding = .ok keys) :
    Spells supplied named (Relational.closingLines (plainProperties t.binding) keys) := by
  have hPlain : Spelled supplied named (descriptorList (plainProperties t.binding)) := by
    refine k.fieldList fun p hp => ?_
    obtain ⟨f, hField, rfl⟩ := List.mem_map.mp hp
    exact ⟨f, (List.mem_filter.mp hField).1, rfl⟩
  have hIdentities : Spelled supplied named (descriptorList keys) := by
    refine k.fieldList fun p hp => ?_
    obtain ⟨f, hField, hProperty, -⟩ := exists_field_of_mem_identities hKeys hp
    exact ⟨f, hField, hProperty⟩
  simp only [Relational.closingLines, spells_cons, spells_nil, text_line, and_true]
  and_intros
  all_goals repeat' with_reducible apply Spelled.append
  all_goals with_reducible first | assumption | exact k.mapping (by decide +kernel)

/-- Whatever class a relational descriptor names, it imports. -/
theorem describe {name : String} {d : ClassDecl}
    (hDescribe : Relational.describe s name t = .ok d) : d.IsSpelled supplied named := by
  obtain ⟨keys, hKeys, rfl⟩ := exists_identities_of_describe hDescribe
  have hSuperclass :
      Spelled supplied named (simpleName (simpleName s.runtime.jdoDescriptorBase)) := by
    rw [simpleName_simpleName]
    exact k.superclass
  have hLines : Spells supplied named (constructorLines s t.binding keys) := by
    rw [constructorLines, spells_append, spells_append]
    exact ⟨⟨k.openingLines, k.fieldBlocks⟩, k.closingLines hKeys⟩
  obtain ⟨imports, hImports⟩ :=
    (ClassDecl.ofName name).exists_addImports_eq (Relational.imports s t.binding)
  rw [withIdentities, hImports]
  exact ⟨List.forall_mem_singleton.mpr hSuperclass, List.forall_mem_nil _, List.forall_mem_nil _,
    List.forall_mem_singleton.mpr (ConstructorDecl.spelled_plain hLines)⟩

end Supplied

end Relational

end Descriptor

end BeanGen
