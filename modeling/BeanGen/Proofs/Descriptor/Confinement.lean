import BeanGen.Proofs.Descriptor.Identities
import BeanGen.Proofs.Text.Word

/-!
# Calls and no others

Descriptors reach the bound class by calls on a variable and by looking methods up. Either is found by
a word in the line. No line of a constructor but the calls themselves has the word, unless a text
that the type or the settings supply brings it along.
-/

namespace BeanGen.Descriptor

open Accessor Java Text

/-- Each of the lines is one of the calls, or has the word from a supplied text at most. -/
def Confined (word : String) (calls supplied : List String) (ls : List Line) : Prop :=
  ∀ l ∈ ls, l.text ∈ calls ∨ Borrows supplied word l.text

/-- The constructor of the descriptor makes these calls, and it has the word by which they are made in
no other line, but where a supplied text brings it. -/
structure MakesCalls (word : String) (calls supplied : List String) (d : ClassDecl) : Prop where
  made : ∀ text ∈ calls, ∃ l ∈ constructorLines d, l.text = text
  only : Confined word calls supplied (constructorLines d)

section Confined

variable {word text : String} {calls supplied : List String} {l : Line} {ls ms : List Line}

theorem confined_nil : Confined word calls supplied [] :=
  List.forall_mem_nil _

theorem confined_cons : Confined word calls supplied (l :: ls) ↔
    (l.text ∈ calls ∨ Borrows supplied word l.text) ∧ Confined word calls supplied ls :=
  List.forall_mem_cons

theorem confined_append : Confined word calls supplied (ls ++ ms) ↔
    Confined word calls supplied ls ∧ Confined word calls supplied ms :=
  List.forall_mem_append

theorem confined_flatMap {α : Type} {xs : List α} {f : α → List Line} :
    Confined word calls supplied (xs.flatMap f) ↔ ∀ x ∈ xs, Confined word calls supplied (f x) :=
  List.forall_mem_flatMap

theorem confined_nested :
    Confined word calls supplied (nested ls) ↔ Confined word calls supplied ls :=
  List.forall_mem_map

theorem Confined.optional {c : Prop} [Decidable c] (h : Confined word calls supplied ls) :
    Confined word calls supplied (if c then ls else []) := by
  split
  · exact h
  · exact confined_nil

theorem confined_of_borrows (h : ∀ l ∈ ls, Borrows supplied word l.text) :
    Confined word calls supplied ls :=
  fun l hLine => .inr (h l hLine)

end Confined

theorem MakesCalls.mem_calls {word : String} {calls supplied : List String} {d : ClassDecl}
    (h : MakesCalls word calls supplied d) (hSupplied : ∀ text ∈ supplied, ¬ StandsIn word text)
    {l : Line} (hLine : l ∈ constructorLines d) (hWord : StandsIn word l.text) :
    l.text ∈ calls := by
  rcases h.only l hLine with hCall | hBorrows
  · exact hCall
  · obtain ⟨text, hText, hHas, -⟩ := hBorrows hWord
    exact absurd hHas (hSupplied text hText)

theorem borrows_booleanLiteral {texts : List String} {word : List Char} (b : Bool)
    (hTrue : ¬ word <:+: ['t', 'r', 'u', 'e'])
    (hFalse : ¬ word <:+: ['f', 'a', 'l', 's', 'e']) :
    Borrows texts (String.ofList word) (booleanLiteral b) := by
  cases b
  · exact .fixed hFalse
  · exact .fixed hTrue

/-! ## XML descriptors -/

namespace Xml

/-- What the settings and the type supply to the lines of the constructor. -/
def typeTexts (s : Settings) (t : BoundType) : List String :=
  [simpleName t.name, simpleName s.runtime.xmlFieldDescriptor,
    simpleName s.runtime.xmlFieldHandler, simpleName s.runtime.fieldValidator,
    optionalLiteral t.namespaceUri, optionalLiteral t.namespacePrefix, stringLiteral t.xmlName] ++
    ((describedParent? s t).map fun p => simpleName (nameFor s p)).toList

def fieldTexts (s : Settings) (f : BoundField) : List String :=
  [f.name, f.xmlName, f.valueType.classLiteral,
    simpleName s.runtime.nodeType ++ "." ++ f.node.constant, toString f.maxSize]

def suppliedTexts (s : Settings) (t : BoundType) : List String :=
  typeTexts s t ++ t.fields.flatMap (fieldTexts s)

variable {s : Settings} {t : BoundType} {f : BoundField} {calls supplied : List String}

theorem confined_openingLines (h : typeTexts s t ⊆ supplied) :
    Confined "target." calls supplied (openingLines s t) := by
  have hText {text : String} (hMem : text ∈ typeTexts s t) : Borrows supplied "target." text :=
    .given (h hMem)
  have hExtension : ∀ p ∈ describedParent? s t, Borrows supplied "target."
      ("setExtendsWithoutFlatten(new " ++ simpleName (nameFor s p) ++ "());") := by
    intro p hParent
    refine .enclosed (by decide) (hText ?_) (by decide)
    simp [typeTexts, Option.mem_def.mp hParent]
  simp only [openingLines, confined_append, confined_cons, line]
  refine ⟨⟨⟨.inr (.fixed (by decide)), confined_nil⟩, ?_⟩, .inr ?_, .inr ?_, .inr ?_, .inr ?_,
    confined_nil⟩
  · split
    · rename_i p hParent
      exact confined_cons.mpr ⟨.inr (hExtension p hParent), confined_nil⟩
    · exact confined_nil
  · exact .enclosed (by decide) (hText (by simp [typeTexts, BoundType.binding])) (by decide)
  · exact .enclosed (by decide) (hText (by simp [typeTexts, BoundType.binding])) (by decide)
  · exact .enclosed (by decide) (hText (by simp [typeTexts, BoundType.binding])) (by decide)
  · exact .enclosed (by decide) (borrows_booleanLiteral _ (by decide) (by decide)) (by decide)

theorem confined_sharedVariables (h : typeTexts s t ⊆ supplied) :
    Confined "target." calls supplied (sharedVariables s) := by
  have hText {text : String} (hMem : text ∈ typeTexts s t) : Borrows supplied "target." text :=
    .given (h hMem)
  simp only [sharedVariables, confined_cons, line]
  refine ⟨.inr (.fixed (by decide)), .inr ?_, .inr ?_, .inr ?_, confined_nil⟩
  · exact .closed (hText (by simp [typeTexts])) (by decide)
  · exact .closed (hText (by simp [typeTexts])) (by decide)
  · exact .closed (hText (by simp [typeTexts])) (by decide)

/-! ### The handler of a field -/

section Handler

variable {boundClass head text : String} {ls : List Line}

theorem confined_override (hHead : Borrows supplied "target." head)
    (h : Confined "target." calls supplied ls) :
    Confined "target." calls supplied (override head ls) := by
  simp only [override, confined_append, confined_cons, confined_nested, line]
  exact ⟨⟨⟨.inr (.fixed (by decide)), .inr (.enclosed (by decide) hHead (by decide)), confined_nil⟩,
    h⟩, .inr (.fixed (by decide)), confined_nil⟩

theorem confined_guarded (h : Confined "target." calls supplied ls) :
    Confined "target." calls supplied (guarded ls) := by
  simp only [guarded, confined_append, confined_cons, confined_nested, line, indented]
  exact ⟨⟨⟨.inr (.fixed (by decide)), confined_nil⟩, h⟩, .inr (.fixed (by decide)),
    .inr (.fixed (by decide)), .inr (.fixed (by decide)), confined_nil⟩

theorem confined_call (hClass : Borrows supplied "target." boundClass) (hText : text ∈ calls) :
    Confined "target." calls supplied [targetLine boundClass, line text] := by
  have hTarget : Borrows supplied "target." (targetLine boundClass).text :=
    .closed (.between hClass (by decide) hClass) (by decide)
  exact confined_cons.mpr ⟨.inr hTarget, confined_cons.mpr ⟨.inl hText, confined_nil⟩⟩

/-- The handler of a field calls on the bound object where it has to, and nowhere else. -/
theorem confined_handlerLines (hClass : Borrows supplied "target." boundClass)
    (hCalls : callTexts s f ⊆ calls) :
    Confined "target." calls supplied (handlerLines s boundClass f) := by
  rw [callTexts_eq] at hCalls
  have hBlank : Confined "target." calls supplied [line ""] :=
    confined_cons.mpr ⟨.inr (.fixed (by decide)), confined_nil⟩
  have hGet : Confined "target." calls supplied (getValueLines boundClass f) :=
    confined_override (.fixed (by decide)) (confined_call hClass (hCalls List.mem_cons_self))
  have hSet : Confined "target." calls supplied (setValueLines s boundClass f) :=
    confined_override (.opened (by decide +kernel) (.fixed (by decide))) (confined_guarded
      (confined_call hClass (hCalls (List.mem_cons_of_mem _ List.mem_cons_self))))
  have hNew : Confined "target." calls supplied newInstanceLines :=
    confined_override (.fixed (by decide))
      (confined_cons.mpr ⟨.inr (.fixed (by decide)), confined_nil⟩)
  simp only [handlerLines, confined_append]
  refine ⟨⟨⟨⟨⟨hGet, hBlank⟩, hSet⟩, hBlank⟩, ?_⟩, hNew⟩
  split
  · rename_i hMany
    rw [if_pos hMany] at hCalls
    refine confined_append.mpr ⟨confined_override (.fixed (by decide +kernel)) (confined_guarded
      (confined_call hClass (hCalls ?_))), hBlank⟩
    exact List.mem_cons_of_mem _ (List.mem_cons_of_mem _ List.mem_cons_self)
  · exact confined_nil

theorem borrows_descriptorLine
    (hClass : Borrows supplied "target." (simpleName s.runtime.xmlFieldDescriptor))
    (hField : fieldTexts s f ⊆ supplied) :
    Borrows supplied "target." ("desc = new " ++ simpleName s.runtime.xmlFieldDescriptor ++ "(" ++
      f.valueType.classLiteral ++ ", \"" ++ f.name ++ "\", \"" ++ f.xmlName ++ "\", " ++
      simpleName s.runtime.nodeType ++ "." ++ f.node.constant ++ ");") := by
  have hLiteral : Borrows supplied "target." f.valueType.classLiteral :=
    .given (hField (by simp [fieldTexts]))
  have hName : Borrows supplied "target." f.name := .given (hField (by simp [fieldTexts]))
  have hXmlName : Borrows supplied "target." f.xmlName := .given (hField (by simp [fieldTexts]))
  have hNode : Borrows supplied "target."
      (simpleName s.runtime.nodeType ++ "." ++ f.node.constant) :=
    .given (hField (by simp [fieldTexts]))
  -- the point alone would not be a fence, so it is taken with what stands around it
  have hGroup (x y z : String) : x ++ y ++ "." ++ z = x ++ (y ++ "." ++ z) := by
    simp only [String.append_assoc]
  rw [hGroup _ (simpleName s.runtime.nodeType)]
  refine .closed (.between (.between (.between (.between (.opened ?_ hClass) ?_ hLiteral) ?_ hName)
    ?_ hXmlName) ?_ hNode) ?_
  all_goals decide

variable {isIdentity : Bool}

theorem confined_describingLines (hType : typeTexts s t ⊆ supplied)
    (hField : fieldTexts s f ⊆ supplied) (hCalls : callTexts s f ⊆ calls) :
    Confined "target." calls supplied (describingLines s (simpleName t.name) isIdentity f) := by
  have hText {text : String} (hMem : text ∈ typeTexts s t) : Borrows supplied "target." text :=
    .given (hType hMem)
  have hBound : Borrows supplied "target." (simpleName t.name) := hText (by simp [typeTexts])
  have hName : Borrows supplied "target." f.name := .given (hField (by simp [fieldTexts]))
  have hMany : Borrows supplied "target." (booleanLiteral f.isCollection) :=
    borrows_booleanLiteral _ (by decide) (by decide)
  simp only [describingLines, confined_append, confined_cons, confined_nested, line]
  refine ⟨⟨⟨⟨⟨⟨.inr ?_, .inr ?_, .inr ?_, confined_nil⟩, confined_handlerLines hBound hCalls⟩,
    .inr ?_, .inr ?_, confined_nil⟩, .optional ?_⟩, .inr ?_, .inr ?_, confined_nil⟩, .optional ?_⟩
  · exact .opened (by decide) hName
  · exact borrows_descriptorLine (hText (by simp [typeTexts])) hField
  · exact .enclosed (by decide) (hText (by simp [typeTexts])) (by decide)
  · exact .fixed (by decide)
  · exact .fixed (by decide)
  · exact confined_cons.mpr ⟨.inr (.fixed (by decide)), confined_nil⟩
  · exact .enclosed (by decide) hMany (by decide)
  · exact .fixed (by decide)
  · exact confined_cons.mpr ⟨.inr (.fixed (by decide)), confined_nil⟩

theorem confined_validatingLines (hType : typeTexts s t ⊆ supplied)
    (hField : fieldTexts s f ⊆ supplied) :
    Confined "target." calls supplied (validatingLines s f) := by
  have hName : Borrows supplied "target." f.name := .given (hField (by simp [fieldTexts]))
  have hSize : Borrows supplied "target." (toString f.maxSize) :=
    .given (hField (by simp [fieldTexts]))
  have hValidator : Borrows supplied "target." (simpleName s.runtime.fieldValidator) :=
    .given (hType (by simp [typeTexts]))
  simp only [validatingLines, confined_append, confined_cons, line]
  refine ⟨⟨⟨⟨.inr ?_, .inr ?_, confined_nil⟩, .optional ?_⟩, .optional ?_⟩, .inr ?_, confined_nil⟩
  · exact .opened (by decide) hName
  · exact .enclosed (by decide) hValidator (by decide)
  · exact confined_cons.mpr ⟨.inr (.fixed (by decide)), confined_nil⟩
  · exact confined_cons.mpr ⟨.inr (.enclosed (by decide) hSize (by decide)), confined_nil⟩
  · exact .fixed (by decide)

end Handler

/-- The constructor calls on the bound object for its fields, and in no other line. -/
theorem confined_constructorLines (s : Settings) (t : BoundType) :
    Confined "target." (t.fields.flatMap (callTexts s)) (suppliedTexts s t)
      (constructorLines s t) := by
  have hType : typeTexts s t ⊆ suppliedTexts s t := List.subset_append_left _ _
  have hShared : Confined "target." (t.fields.flatMap (callTexts s)) (suppliedTexts s t)
      (if t.fields.isEmpty then [] else sharedVariables s) := by
    split
    · exact confined_nil
    · exact confined_sharedVariables hType
  refine confined_append.mpr ⟨confined_append.mpr ⟨confined_openingLines hType, hShared⟩, ?_⟩
  refine confined_flatMap.mpr fun f hField => ?_
  have hTexts : fieldTexts s f ⊆ suppliedTexts s t := fun text hText =>
    List.mem_append_right _ (List.mem_flatMap.mpr ⟨f, hField, hText⟩)
  have hCalls : callTexts s f ⊆ t.fields.flatMap (callTexts s) := fun text hText =>
    List.mem_flatMap.mpr ⟨f, hField, hText⟩
  have hBlank : Confined "target." (t.fields.flatMap (callTexts s)) (suppliedTexts s t)
      [line ""] := confined_cons.mpr ⟨.inr (.fixed (by decide)), confined_nil⟩
  refine confined_cons.mpr ⟨.inr (.fixed (by decide)), ?_⟩
  exact confined_append.mpr ⟨confined_append.mpr
    ⟨confined_describingLines hType hTexts hCalls, hBlank⟩, confined_validatingLines hType hTexts⟩

theorem makesCalls_describe (s : Settings) (name : String) (t : BoundType) :
    MakesCalls "target." (t.fields.flatMap (callTexts s)) (suppliedTexts s t)
      (describe s name t) where
  made text hText := by
    obtain ⟨f, hField, hCall⟩ := List.mem_flatMap.mp hText
    exact exists_xml_line hField hCall
  only := by
    rw [constructorLines_xml]
    exact confined_constructorLines s t

end Xml

/-! ## Relational descriptors -/

namespace Relational

/-- What the settings and the type supply to the lines of the constructor. -/
def typeTexts (s : Settings) (t : BoundType) : List String :=
  [simpleName t.name, simpleName s.runtime.accessMode, stringLiteral t.name,
    stringLiteral (tableName t.binding)]

def fieldTexts (f : BoundField) : List String :=
  [f.property, stringLiteral f.property, stringLiteral f.sqlName, f.valueType.writtenBoxed,
    f.readMethod, f.writeMethod]

def suppliedTexts (s : Settings) (t : BoundType) : List String :=
  typeTexts s t ++ (mappedFields t.binding).flatMap fieldTexts

variable {s : Settings} {t : BoundType} {f : BoundField} {calls supplied : List String}

theorem borrows_variableName (h : fieldTexts f ⊆ supplied) (v : Local) :
    Borrows supplied "getMethod(" (variableName f.property v) := by
  have hProperty : Borrows supplied "getMethod(" f.property := .given (h (by simp [fieldTexts]))
  cases v
  all_goals exact .closed hProperty (by decide)

section Field

variable (h : fieldTexts f ⊆ supplied)
include h

theorem confined_declaringLines (isIdentity : Bool) :
    Confined "getMethod(" calls supplied (declaringLines isIdentity f) := by
  have hVariable := borrows_variableName h
  have hProperty : Borrows supplied "getMethod(" f.property := .given (h (by simp [fieldTexts]))
  have hLiteral : Borrows supplied "getMethod(" (stringLiteral f.property) :=
    .given (h (by simp [fieldTexts]))
  have hColumn : Borrows supplied "getMethod(" (stringLiteral f.sqlName) :=
    .given (h (by simp [fieldTexts]))
  have hBoxed : Borrows supplied "getMethod(" f.valueType.writtenBoxed :=
    .given (h (by simp [fieldTexts]))
  have hRequired : Borrows supplied "getMethod(" (booleanLiteral (isRequired isIdentity f)) :=
    borrows_booleanLiteral _ (by decide) (by decide)
  refine confined_of_borrows ?_
  simp only [declaringLines, List.forall_mem_cons, line]
  and_intros
  all_goals repeat' with_reducible first
    | assumption
    | exact hVariable _
    | exact Borrows.fixed (by decide)
    | apply Borrows.between
    | apply Borrows.closed
    | apply Borrows.opened
    | decide
  exact List.forall_mem_nil _

omit h in
theorem confined_rescueLines : Confined "getMethod(" calls supplied rescueLines := by
  refine confined_of_borrows ?_
  simp only [rescueLines, List.forall_mem_cons, line, indented]
  and_intros
  all_goals first
    | exact Borrows.fixed (by decide)
    | exact List.forall_mem_nil _

/-- Two of the lines look the accessors of the field up. -/
theorem confined_handlerLines {boundClass : String} (hCalls : lookupTexts boundClass f ⊆ calls) :
    Confined "getMethod(" calls supplied (handlerLines boundClass f) := by
  have hVariable := borrows_variableName h
  rw [lookupTexts_eq] at hCalls
  have hMade : Borrows supplied "getMethod(" (variableName f.property .handler ++
      " = new FieldHandlerImpl(" ++ variableName f.property .fieldName ++ ", null, null, " ++
      variableName f.property .getMethod ++ ", " ++ variableName f.property .setMethod ++ ", " ++
      variableName f.property .type ++ ");") := by
    refine .closed (.between (.between (.between (.between (hVariable _) ?_ (hVariable _)) ?_
      (hVariable _)) ?_ (hVariable _)) ?_ (hVariable _)) ?_
    all_goals decide
  simp only [handlerLines, confined_append, confined_cons, line, indented]
  refine ⟨⟨.inr ?_, .inr ?_, .inl ?_, .inl ?_, .inr hMade, confined_nil⟩, confined_rescueLines⟩
  · exact .enclosed (by decide) (hVariable _) (by decide)
  · exact .fixed (by decide)
  · exact hCalls List.mem_cons_self
  · exact hCalls (List.mem_cons_of_mem _ List.mem_cons_self)

omit h in
theorem borrows_columnConstant : Borrows supplied "getMethod(" f.valueType.columnConstant := by
  rw [BoundField.valueType]
  cases f.content with
  | bound =>
    show Borrows supplied "getMethod(" ("java.sql.Types." ++ asciiUpper "varchar")
    exact .absent (by decide +kernel)
  | _ => exact .absent (by decide +kernel)

omit h in
theorem borrows_columnType : Borrows supplied "getMethod(" f.valueType.columnType := by
  rw [BoundField.valueType]
  cases f.content with
  | _ => exact .fixed (by decide)

theorem confined_columnLines : Confined "getMethod(" calls supplied (columnLines f) := by
  have hVariable := borrows_variableName h
  have hProperty : Borrows supplied "getMethod(" f.property := .given (h (by simp [fieldTexts]))
  have hConstant : Borrows supplied "getMethod(" f.valueType.columnConstant :=
    borrows_columnConstant
  refine confined_of_borrows ?_
  simp only [columnLines, List.forall_mem_cons, line]
  and_intros
  all_goals repeat' with_reducible first
    | assumption
    | exact hVariable _
    | exact Borrows.fixed (by decide)
    | apply Borrows.between
    | apply Borrows.closed
    | apply Borrows.opened
    | decide
  exact List.forall_mem_nil _

theorem confined_mappingLines (isIdentity : Bool) :
    Confined "getMethod(" calls supplied (mappingLines isIdentity f) := by
  have hVariable := borrows_variableName h
  have hProperty : Borrows supplied "getMethod(" f.property := .given (h (by simp [fieldTexts]))
  have hRead : Borrows supplied "getMethod(" f.readMethod := .given (h (by simp [fieldTexts]))
  have hWrite : Borrows supplied "getMethod(" f.writeMethod := .given (h (by simp [fieldTexts]))
  have hLiteral : Borrows supplied "getMethod(" (stringLiteral f.sqlName) :=
    .given (h (by simp [fieldTexts]))
  have hColumn : Borrows supplied "getMethod(" f.valueType.columnType := borrows_columnType
  have hBoolean (b : Bool) : Borrows supplied "getMethod(" (booleanLiteral b) :=
    borrows_booleanLiteral b (by decide) (by decide)
  refine confined_of_borrows ?_
  simp only [mappingLines, List.forall_mem_cons, line]
  and_intros
  all_goals repeat' with_reducible first
    | assumption
    | exact hVariable _
    | exact hBoolean _
    | exact Borrows.fixed (by decide)
    | apply Borrows.between
    | apply Borrows.closed
    | apply Borrows.opened
    | decide
  exact List.forall_mem_nil _

end Field

theorem confined_openingLines (h : typeTexts s t ⊆ supplied) :
    Confined "getMethod(" calls supplied (openingLines s t.binding) := by
  have hClass : Borrows supplied "getMethod(" (simpleName t.binding.boundClass) :=
    .given (h (by simp [typeTexts, BoundType.binding]))
  have hModes : Borrows supplied "getMethod(" (simpleName s.runtime.accessMode) :=
    .given (h (by simp [typeTexts]))
  have hName : Borrows supplied "getMethod(" (stringLiteral t.binding.boundClass) :=
    .given (h (by simp [typeTexts, BoundType.binding]))
  have hTable : Borrows supplied "getMethod(" (stringLiteral (tableName t.binding)) :=
    .given (h (by simp [typeTexts]))
  have hMode (mode : AccessMode) : Borrows supplied "getMethod(" mode.runtimeName := by
    cases mode
    all_goals exact .fixed (by decide)
  refine confined_of_borrows ?_
  simp only [openingLines, List.forall_mem_cons, line]
  and_intros
  all_goals repeat' with_reducible first
    | assumption
    | exact hMode _
    | exact Borrows.fixed (by decide +kernel)
    | apply Borrows.between
    | apply Borrows.closed
    | apply Borrows.opened
    | decide
  exact List.forall_mem_nil _

theorem borrows_descriptorList {properties : List String}
    (h : (mappedFields t.binding).flatMap fieldTexts ⊆ supplied)
    (hMapped : ∀ p ∈ properties, ∃ f ∈ mappedFields t.binding, f.property = p) :
    Borrows supplied "getMethod(" (descriptorList properties) := by
  refine Borrows.intercalate (by decide) (List.forall_mem_map.mpr fun p hp => ?_)
  obtain ⟨f, hField, rfl⟩ := hMapped p hp
  refine borrows_variableName (fun text hText => h ?_) .descriptor
  exact List.mem_flatMap.mpr ⟨f, hField, hText⟩

theorem confined_closingLines {keys : List String}
    (h : (mappedFields t.binding).flatMap fieldTexts ⊆ supplied)
    (hKeys : identities t.binding = .ok keys) :
    Confined "getMethod(" calls supplied (closingLines (plainProperties t.binding) keys) := by
  have hPlain : Borrows supplied "getMethod(" (descriptorList (plainProperties t.binding)) := by
    refine borrows_descriptorList h fun p hp => ?_
    obtain ⟨f, hField, rfl⟩ := List.mem_map.mp hp
    exact ⟨f, (List.mem_filter.mp hField).1, rfl⟩
  have hIdentities : Borrows supplied "getMethod(" (descriptorList keys) := by
    refine borrows_descriptorList h fun p hp => ?_
    obtain ⟨f, hField, hProperty, -⟩ := exists_field_of_mem_identities hKeys hp
    exact ⟨f, hField, hProperty⟩
  simp only [closingLines, confined_cons, line]
  exact ⟨.inr (.fixed (by decide)), .inr (.enclosed (by decide) hPlain (by decide)),
    .inr (.enclosed (by decide) hIdentities (by decide)), confined_nil⟩

def lookups (t : BoundType) : List String :=
  (mappedFields t.binding).flatMap (lookupTexts (simpleName t.name))

/-- The constructor looks the accessors of its mapped fields up, and in no other line a method. -/
theorem confined_constructorLines (s : Settings) {t : BoundType} {keys : List String}
    (hKeys : identities t.binding = .ok keys) :
    Confined "getMethod(" (lookups t) (suppliedTexts s t) (constructorLines s t.binding keys) := by
  have hType : typeTexts s t ⊆ suppliedTexts s t := List.subset_append_left _ _
  have hFields : (mappedFields t.binding).flatMap fieldTexts ⊆ suppliedTexts s t :=
    List.subset_append_right _ _
  refine confined_append.mpr ⟨confined_append.mpr ⟨confined_openingLines hType, ?_⟩,
    confined_closingLines hFields hKeys⟩
  refine confined_flatMap.mpr fun f hField => ?_
  have hTexts : fieldTexts f ⊆ suppliedTexts s t := fun text hText =>
    hFields (List.mem_flatMap.mpr ⟨f, hField, hText⟩)
  have hCalls : lookupTexts (simpleName t.name) f ⊆ lookups t := fun text hText =>
    List.mem_flatMap.mpr ⟨f, hField, hText⟩
  refine confined_cons.mpr ⟨.inr (.fixed (by decide)), ?_⟩
  simp only [fieldBlock, confined_append]
  exact ⟨⟨⟨confined_declaringLines hTexts _, confined_handlerLines hTexts hCalls⟩,
    confined_columnLines hTexts⟩, confined_mappingLines hTexts _⟩

theorem makesCalls_of_describe {name : String} {d : ClassDecl}
    (hDescribe : describe s name t = .ok d) :
    MakesCalls "getMethod(" (lookups t) (suppliedTexts s t) d where
  made text hText := by
    obtain ⟨f, hMapped, hLookup⟩ := List.mem_flatMap.mp hText
    obtain ⟨hField, hKind⟩ := mem_mappedFields.mp hMapped
    exact exists_relational_line hDescribe hField hKind hLookup
  only := by
    obtain ⟨keys, hKeys, rfl⟩ := exists_identities_of_describe hDescribe
    rw [constructorLines_relational]
    exact confined_constructorLines s hKeys

end Relational

end BeanGen.Descriptor
