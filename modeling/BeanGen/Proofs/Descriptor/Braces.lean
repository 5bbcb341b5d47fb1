import BeanGen.Descriptor.Relational
import BeanGen.Descriptor.Xml
import BeanGen.Proofs.Accessor.Braces
import BeanGen.Proofs.Descriptor.Identities

/-!
# Braces of descriptors

The constructor of a descriptor holds handlers with methods of their own, attempts and rescues, and
lists in braces on one line. If no text of the type and the settings has a brace, all of them close.
-/

namespace BeanGen

open Java Text

def RuntimeClasses.strings (r : RuntimeClasses) : List String :=
  [r.xmlDescriptorBase, r.jdoDescriptorBase, r.fieldDescriptor, r.xmlFieldDescriptor,
    r.xmlFieldHandler, r.fieldValidator, r.typeValidator, r.nodeType, r.accessMode,
    r.externalStoreFactory, r.externalStoreType]

def Settings.strings (s : Settings) : List String :=
  [s.package, s.conflictStrategies, s.conflictStrategy, s.descriptorSuffix, s.jdoDescriptorSuffix,
    s.logLevel] ++ s.superClass.toList ++ s.arrayMarkers ++ s.runtime.strings

/-- The texts of a type and its fields, as a schema gives them. -/
def BoundType.strings (t : BoundType) : List String :=
  t.name :: t.parent.toList ++ t.namespacePrefix.toList ++ t.namespaceUri.toList ++
    t.externalName.toList ++ t.identities ++ t.validator.toList ++ t.tableName.toList ++
    t.notes.flatMap (·.strings) ++ t.fields.flatMap (·.strings)

/-- No text of the settings has a brace. -/
def Settings.IsBraceless (s : Settings) : Prop :=
  ∀ text ∈ s.strings, Braceless text

/-- No text of a type has a brace. -/
def BoundType.IsBraceless (t : BoundType) : Prop :=
  ∀ text ∈ t.strings, Braceless text

theorem Settings.IsBraceless.runtime {s : Settings} (h : s.IsBraceless) :
    ∀ text ∈ s.runtime.strings, Braceless text :=
  fun _ hText => h _ (List.mem_append_right _ hText)

namespace BoundType.IsBraceless

variable {t : BoundType} (h : t.IsBraceless)
include h

theorem name : Braceless t.name :=
  h _ (by simp [strings])

theorem xmlName : Braceless t.xmlName := by
  rw [BoundType.xmlName]
  cases hName : t.externalName with
  | none => exact h.name.simpleName.decapitalize
  | some name => exact h name (by simp [strings, hName])

theorem tableName : Braceless (Descriptor.Relational.tableName t.binding) := by
  rw [Descriptor.Relational.tableName]
  cases hName : t.binding.tableName with
  | none => exact h.xmlName
  | some name =>
    have hTable : t.tableName = some name := hName
    exact h name (by simp [strings, hTable])

theorem field {f : BoundField} (hField : f ∈ t.fields) : f.IsBraceless := fun _ hText =>
  h _ (List.mem_append_right _ (List.mem_flatMap.mpr ⟨f, hField, hText⟩))

end BoundType.IsBraceless

namespace Descriptor

/-- No text of the settings and the type has a brace. -/
structure Unbraced (s : Settings) (t : BoundType) : Prop where
  settings : s.IsBraceless
  type : t.IsBraceless

namespace Unbraced

variable {s : Settings} {t : BoundType} (k : Unbraced s t)
include k

theorem boundClass : Braced 1 (simpleName t.name) :=
  k.type.name.simpleName.braced

theorem runtimeClass {name : String} (hName : name ∈ s.runtime.strings) :
    Braced 1 (simpleName name) :=
  (k.settings.runtime name hName).simpleName.braced

theorem xmlFieldDescriptor : Braced 1 (simpleName s.runtime.xmlFieldDescriptor) :=
  k.runtimeClass (by simp [RuntimeClasses.strings])

theorem xmlFieldHandler : Braced 1 (simpleName s.runtime.xmlFieldHandler) :=
  k.runtimeClass (by simp [RuntimeClasses.strings])

theorem fieldDescriptor : Braced 1 (simpleName s.runtime.fieldDescriptor) :=
  k.runtimeClass (by simp [RuntimeClasses.strings])

theorem fieldValidator : Braced 1 (simpleName s.runtime.fieldValidator) :=
  k.runtimeClass (by simp [RuntimeClasses.strings])

theorem accessMode : Braced 1 (simpleName s.runtime.accessMode) :=
  k.runtimeClass (by simp [RuntimeClasses.strings])

end Unbraced

theorem braced_booleanLiteral (b : Bool) : Braced 1 (booleanLiteral b) := by
  cases b <;> exact .ofList (by decide)

theorem braced_runtimeName (mode : AccessMode) : Braced 1 mode.runtimeName := by
  cases mode <;> exact .ofList (by decide)

namespace Xml

/-! ## The block of a field in an XML descriptor -/

theorem closed_override {head : String} {ls : List Line} (hHead : Braced 1 head) (h : Closed ls) :
    Closed (override head ls) := by
  have hMethod : Braced .left ("public " ++ head ++ " \x7b") :=
    .enclosed (by decide) hHead (by decide)
  refine Closed.around [1, .left] [.right] ?_ h ?_ rfl
  all_goals simp only [bracing_cons, bracing_nil, text_line, and_true]
  · exact ⟨.ofList (by decide), hMethod⟩
  · exact .ofList (by decide)

theorem closed_guarded {ls : List Line} (h : Closed ls) : Closed (guarded ls) := by
  refine Closed.around [.left] [.right * .left, 1, .right] ?_ h ?_ rfl
  all_goals simp only [bracing_cons, bracing_nil, text_line, text_indented, and_true]
  · exact .ofList (by decide)
  · exact ⟨.ofList (by decide), .ofList (by decide), .ofList (by decide)⟩

section Field

variable {s : Settings} {f : BoundField} {boundClass : String} (k : f.IsBraceless)

theorem braced_targetLine (hClass : Braced 1 boundClass) :
    Braced 1 (targetLine boundClass).text := by
  have hLine := ((hClass.append (b := " target = (") (.ofList (by decide))).append hClass)
  exact hLine.append (.ofList (by decide))

include k

theorem braced_handedValue : Braced 1 (handedValue s f) := by
  rw [handedValue]
  split
  · exact .enclosed (by decide) k.valueType.writtenBoxed (by decide)
  · exact k.valueType.fromObject (.ofList (by decide))

theorem braced_fetchedValue : Braced 1 (fetchedValue f) := by
  have hCall : Braced 1 ("target." ++ f.readMethod ++ "()") :=
    .enclosed (by decide) k.readMethod (by decide)
  simp only [fetchedValue]
  split
  · exact hCall
  · exact k.valueType.toObject hCall

theorem braced_mutator : Braced 1 (mutator f) := by
  rw [mutator]
  split
  · exact .append (.ofList (by decide)) k.suffix.braced
  · exact k.writeMethod

theorem closed_handlerLines (hClass : Braced 1 boundClass) :
    Closed (handlerLines s boundClass f) := by
  have hTarget := braced_targetLine hClass
  have hBlank : Closed [line ""] := .singleton (.ofList (by decide))
  have hGet : Closed (getValueLines boundClass f) := by
    refine closed_override (.ofList (by decide)) (.cons hTarget (.singleton ?_))
    exact .enclosed (by decide) (braced_fetchedValue k) (by decide)
  have hSet : Closed (setValueLines s boundClass f) := by
    refine closed_override ?_ (closed_guarded (.cons hTarget (.singleton ?_)))
    · exact .append (.ofList (by decide +kernel)) (.ofList (by decide))
    · exact ((Braced.enclosed (by decide) (braced_mutator k) (by decide)).append
        (braced_handedValue k)).append (.ofList (by decide))
  have hReset : Closed (resetValueLines boundClass f) := by
    refine closed_override (.ofList (by decide +kernel))
      (closed_guarded (.cons hTarget (.singleton ?_)))
    exact .enclosed (by decide) k.suffix.braced (by decide)
  have hNew : Closed newInstanceLines :=
    closed_override (.ofList (by decide)) (.singleton (.ofList (by decide)))
  exact ((((hGet.append hBlank).append hSet).append hBlank).append
    (.ite (fun _ => hReset.append hBlank) fun _ => .nil)).append hNew

end Field

/-! ## An XML descriptor -/

section Described

variable {s : Settings} {t : BoundType} (k : Unbraced s t)
include k

theorem braceless_nameFor {p : String} (hParent : describedParent? s t = some p) :
    Braceless (nameFor s p) := by
  have hName : t.parent = some p := (Option.filter_eq_some_iff.mp hParent).1
  refine .append (k.type p (by simp [BoundType.strings, hName])) (k.settings _ ?_)
  simp [Settings.strings]

theorem braceless_superclass : Braceless (Xml.superclass s t) := by
  rw [Xml.superclass]
  split
  · rename_i p hParent
    exact braceless_nameFor k hParent
  · exact k.settings.runtime _ (by simp [RuntimeClasses.strings])

variable {f : BoundField}

theorem closed_describingLines (isIdentity : Bool) (hField : f ∈ t.fields) :
    Closed (describingLines s (simpleName t.name) isIdentity f) := by
  have hName := (k.type.field hField).name.braced
  have hXmlName := (k.type.field hField).xmlName.braced
  have hValue : Braced 1 f.valueType.classLiteral :=
    (k.type.field hField).valueType.written.append (.ofList (by decide))
  have hDescriptor := k.xmlFieldDescriptor
  have hHandler := k.xmlFieldHandler
  have hNodeType : Braced 1 (simpleName s.runtime.nodeType) :=
    k.runtimeClass (by simp [RuntimeClasses.strings])
  have hNode : Braced 1 f.node.constant := by cases f.node <;> exact .ofList (by decide)
  have hMany := braced_booleanLiteral f.isCollection
  have hHandlerLines := closed_handlerLines (s := s) (k.type.field hField) k.boundClass
  refine .append (.append (.append (.around [1, 1, .left] [.right, 1] ?_ hHandlerLines ?_ rfl)
    (.ite (fun _ => .singleton ?_) fun _ => .nil)) (Bracing.closed [1, 1] ?_ rfl))
    (.ite (fun _ => .singleton ?_) fun _ => .nil)
  all_goals try simp only [bracing_cons, bracing_nil, text_line, and_true]
  all_goals and_intros
  all_goals repeat' with_reducible apply Braced.append
  all_goals first | with_reducible assumption | exact .ofList (by decide)

theorem closed_validatingLines (hField : f ∈ t.fields) : Closed (validatingLines s f) := by
  have hName := (k.type.field hField).name.braced
  have hValidator := k.fieldValidator
  have hMax : Braced 1 (toString f.maxSize) := (Braceless.ofInt f.maxSize).braced
  refine .append (.append (.append (Bracing.closed [1, 1] ?_ rfl)
    (.ite (fun _ => .singleton ?_) fun _ => .nil)) (.ite (fun _ => .singleton ?_) fun _ => .nil))
    (.singleton ?_)
  all_goals try simp only [bracing_cons, bracing_nil, text_line, and_true]
  all_goals and_intros
  all_goals repeat' with_reducible apply Braced.append
  all_goals first | with_reducible assumption | exact .ofList (by decide)

theorem closed_fieldBlocks : Closed (fieldBlocks s t.binding) := by
  have hBlank : Closed [line ""] := .singleton (.ofList (by decide))
  refine .flatMap fun f hField => .cons (.ofList (by decide)) ?_
  exact ((closed_describingLines k _ hField).append hBlank).append (closed_validatingLines k hField)

theorem closed_openingLines : Closed (openingLines s t) := by
  have hUri : Braceless (optionalLiteral t.binding.namespaceUri) :=
    .optionalLiteral fun text hText => k.type text (by
      simp_all [BoundType.strings, BoundType.binding])
  have hPrefix : Braceless (optionalLiteral t.binding.namespacePrefix) :=
    .optionalLiteral fun text hText => k.type text (by
      simp_all [BoundType.strings, BoundType.binding])
  have hName : Braceless (stringLiteral t.binding.xmlName) := k.type.xmlName.stringLiteral
  have hElement := braced_booleanLiteral t.binding.elementDefinition
  refine .append (.append (.singleton (.ofList (by decide))) ?_)
    (Bracing.closed [1, 1, 1, 1] ?_ rfl)
  · split
    · rename_i p hParent
      have hSuper := (braceless_nameFor k hParent).simpleName.braced
      exact .singleton (.enclosed (by decide) hSuper (by decide))
    · exact .nil
  · simp only [bracing_cons, bracing_nil, text_line, and_true]
    exact ⟨.enclosed (by decide) hUri.braced (by decide),
      .enclosed (by decide) hPrefix.braced (by decide),
      .enclosed (by decide) hName.braced (by decide), .enclosed (by decide) hElement (by decide)⟩

theorem closed_sharedVariables : Closed (sharedVariables s) := by
  have hDescriptor := k.xmlFieldDescriptor
  have hHandler := k.xmlFieldHandler
  have hValidator := k.fieldValidator
  refine Bracing.closed [1, 1, 1, 1] ?_ rfl
  simp only [sharedVariables, bracing_cons, bracing_nil, text_line, and_true]
  and_intros
  all_goals repeat' with_reducible apply Braced.append
  all_goals first | with_reducible assumption | exact .ofList (by decide)

theorem closed_constructorLines : Closed (constructorLines s t) :=
  .append (.append (closed_openingLines k)
    (.ite (fun _ => .nil) fun _ => closed_sharedVariables k)) (closed_fieldBlocks k)

/-! ### Members and accessors -/

theorem isBraced_members : ∀ d ∈ members s, d.IsBraced := by
  simp only [members, List.forall_mem_cons]
  refine ⟨?_, ?_, ?_, ?_, ?_, List.forall_mem_nil _⟩
  on_goal 5 =>
    exact FieldDecl.isBraced_documented k.fieldDescriptor (.ofList (by decide))
      (.ofList (by decide))
  all_goals exact FieldDecl.isBraced_plain (.ofList (by decide)) (.ofList (by decide))

theorem isBraced_getIdentity : (getIdentity s t).IsBraced := by
  refine MethodDecl.isBraced_plain (.ofList (by decide))
    (List.forall_mem_singleton.mpr k.fieldDescriptor) (List.forall_mem_nil _)
    (.ofList (by decide)) ?_
  refine .append (.ite (fun _ => Bracing.closed [.left, 1, .right] ?_ rfl) fun _ => .nil)
    (.singleton (.ofList (by decide)))
  simp only [bracing_cons, bracing_nil, text_line, text_indented, and_true]
  exact ⟨.ofList (by decide), .ofList (by decide), .ofList (by decide)⟩

theorem isBraced_getValidator : (getValidator s t.binding).IsBraced := by
  have hType : Braced 1 (simpleName s.runtime.typeValidator) :=
    k.runtimeClass (by simp [RuntimeClasses.strings])
  refine MethodDecl.isBraced_reading (.ofList (by decide)) hType (.ofList (by decide +kernel))
    (.enclosed (by decide) ?_ (by decide))
  split
  · rename_i v hValidator
    have hSome : t.validator = some v := hValidator
    have hClass : Braceless v := k.type v (by simp [BoundType.strings, hSome])
    exact .enclosed (by decide) hClass.simpleName.braced (by decide)
  · exact .ofList (by decide)

theorem isBraced_getAccessMode : (getAccessMode s t.binding).IsBraced := by
  refine MethodDecl.isBraced_reading (.ofList (by decide)) k.accessMode (.ofList (by decide))
    (.enclosed (by decide) ?_ (by decide))
  split
  · rename_i mode hMode
    exact ((k.accessMode.append (.ofList (by decide))).append (braced_runtimeName mode)).append
      (.ofList (by decide))
  · exact .ofList (by decide)

theorem isBraced_methods : ∀ m ∈ methods s t, m.IsBraced := by
  have hClass : Braced 1 ("return " ++ simpleName t.name ++ ".class;") :=
    .enclosed (by decide) k.boundClass (by decide)
  simp only [methods, List.forall_mem_cons]
  refine ⟨?_, ?_, ?_, isBraced_getValidator k, ?_, isBraced_getAccessMode k, isBraced_getIdentity k,
    ?_, List.forall_mem_nil _⟩
  on_goal 5 =>
    exact MethodDecl.isBraced_reading (.ofList (by decide)) (.ofList (by decide))
      (.ofList (by decide)) hClass
  all_goals
    exact MethodDecl.isBraced_reading (.ofList (by decide)) (.ofList (by decide))
      (.ofList (by decide +kernel)) (.ofList (by decide))

theorem braceless_imports : ∀ q ∈ Xml.imports s t, Braceless q := by
  have hRuntime : ∀ q ∈ s.runtime.strings, Braceless q := k.settings.runtime
  simp only [RuntimeClasses.strings, List.forall_mem_cons] at hRuntime
  simp only [Xml.imports, List.forall_mem_append, List.forall_mem_cons, List.forall_mem_flatMap]
  refine ⟨⟨⟨⟨⟨⟨braceless_superclass k, ?_⟩, ?_⟩, ?_⟩, ?_⟩, ?_⟩, ?_⟩
  · simp [hRuntime, k.type.name]
  · intro q hq
    obtain ⟨p, hParent, rfl⟩ := Option.map_eq_some_iff.mp (Option.mem_toList.mp hq)
    exact braceless_nameFor k hParent
  · exact fun f hField => (k.type.field hField).valueType.imports
  · simp [hRuntime]
  · exact fun v hv => k.type v (by simp_all [BoundType.strings])
  · simp [hRuntime]

theorem isBraced_describe {name : String} (hName : Braceless name) :
    (describe s name t).IsBraced := by
  have hComment : Braced 1 ("Class " ++ simpleName name ++ ".") :=
    .enclosed (by decide) hName.simpleName.braced (by decide)
  obtain ⟨imports, hImports⟩ := (ClassDecl.ofName name).exists_addImports_eq (Xml.imports s t)
  rw [describe, hImports]
  exact ⟨List.forall_mem_singleton.mpr (braceless_superclass k).simpleName,
    List.forall_mem_singleton.mpr hComment, isBraced_members k, isBraced_methods k,
    List.forall_mem_singleton.mpr (ConstructorDecl.isBraced_plain (closed_constructorLines k))⟩

end Described

end Xml

/-! ## A relational descriptor -/

namespace Relational

/-- Each rescue closes what is attempted or rescued before it, and the last one is closed. -/
theorem bracesOf_rescueLines : bracesOf rescueLines = .right := by
  refine (Bracing.bracesOf_eq
    [.right * .left, 1, .right * .left, 1, .right * .left, 1, .right, 1] ?_).trans rfl
  simp only [rescueLines, bracing_cons, bracing_nil, text_line, text_indented, and_true]
  and_intros
  all_goals exact .ofList (by decide)

section Field

variable {f : BoundField} (k : f.IsBraceless)
include k

theorem braced_variableName (v : Local) : Braced 1 (variableName f.property v) := by
  have hEnding : Braced 1 v.ending := by cases v <;> exact .ofList (by decide)
  exact k.property.braced.append hEnding

theorem closed_declaringLines (isIdentity : Bool) : Closed (declaringLines isIdentity f) := by
  have hVariable := braced_variableName k
  have hProperty := k.property.braced
  have hLiteral := k.property.stringLiteral.braced
  have hSql := k.sqlName.stringLiteral.braced
  have hBoxed := k.valueType.writtenBoxed
  have hRequired := braced_booleanLiteral (isRequired isIdentity f)
  refine Bracing.closed [1, 1, 1, 1, 1, 1, 1, 1, 1] ?_ rfl
  simp only [declaringLines, bracing_cons, bracing_nil, text_line, and_true]
  and_intros
  all_goals repeat' with_reducible apply Braced.append
  all_goals with_reducible first | assumption | exact hVariable _ | exact .ofList (by decide)

theorem closed_handlerLines {boundClass : String} (hClass : Braced 1 boundClass) :
    Closed (handlerLines boundClass f) := by
  have hVariable := braced_variableName k
  have hRead := k.readMethod
  have hWrite := k.writeMethod
  have hValue : Braced 1 f.valueType.classLiteral :=
    k.valueType.written.append (.ofList (by decide))
  rw [Closed, handlerLines, bracesOf_append, bracesOf_rescueLines,
    Bracing.bracesOf_eq [1, .left, 1, 1, 1]]
  · rfl
  · simp only [bracing_cons, bracing_nil, text_line, text_indented, and_true]
    and_intros
    all_goals repeat' with_reducible apply Braced.append
    all_goals with_reducible first | assumption | exact hVariable _ | exact .ofList (by decide)

theorem closed_columnLines : Closed (columnLines f) := by
  have hVariable := braced_variableName k
  have hProperty := k.property.braced
  have hConstant : Braced 1 f.valueType.columnConstant :=
    .append (.ofList (by decide)) k.valueType.columnType.asciiUpper.braced
  refine Bracing.closed [1, 1, 1, 1, 1, 1, 1, 1, 1, 1, 1] ?_ rfl
  simp only [columnLines, bracing_cons, bracing_nil, text_line, and_true]
  and_intros
  on_goal 5 =>
    exact .wrapped ((hVariable _).append (.ofList (by decide))) (hVariable _) (.ofList (by decide))
  on_goal 5 =>
    exact .wrapped ((hVariable _).append (.ofList (by decide))) hConstant (.ofList (by decide))
  all_goals repeat' with_reducible apply Braced.append
  all_goals with_reducible first | assumption | exact hVariable _ | exact .ofList (by decide)

theorem closed_mappingLines (isIdentity : Bool) : Closed (mappingLines isIdentity f) := by
  have hVariable := braced_variableName k
  have hProperty := k.property.braced
  have hRead := k.readMethod
  have hWrite := k.writeMethod
  have hSql := k.sqlName.stringLiteral.braced
  have hColumn := k.valueType.columnType.braced
  have hIdentity := braced_booleanLiteral isIdentity
  have hRequired := braced_booleanLiteral (isRequired isIdentity f)
  refine Bracing.closed [1, 1, 1, 1, 1, 1, 1, 1, 1, 1, 1, 1, 1, 1] ?_ rfl
  simp only [mappingLines, bracing_cons, bracing_nil, text_line, and_true]
  and_intros
  all_goals repeat' with_reducible apply Braced.append
  all_goals with_reducible first | assumption | exact hVariable _ | exact .ofList (by decide)

end Field

section Described

variable {s : Settings} {t : BoundType} (k : Unbraced s t)
include k

theorem closed_fieldBlocks : Closed (fieldBlocks t.binding) := by
  refine .flatMap fun f hMapped => .cons (.ofList (by decide)) ?_
  have hField := k.type.field (mem_mappedFields.mp hMapped).1
  exact (((closed_declaringLines hField _).append (closed_handlerLines hField k.boundClass)).append
    (closed_columnLines hField)).append (closed_mappingLines hField _)

theorem closed_openingLines : Closed (openingLines s t.binding) := by
  have hTable := k.type.tableName.stringLiteral.braced
  have hName : Braced 1 (stringLiteral t.binding.boundClass) := k.type.name.stringLiteral.braced
  have hClass : Braced 1 (simpleName t.binding.boundClass) := k.boundClass
  have hModes := k.accessMode
  have hMode := braced_runtimeName (t.binding.accessMode.getD .standard)
  refine .of_forall ?_
  simp only [openingLines, List.forall_mem_cons, text_line]
  and_intros
  all_goals repeat' with_reducible apply Braced.append
  all_goals with_reducible first
    | assumption
    | exact List.forall_mem_nil _
    | exact .ofList (by decide +kernel)

theorem braced_descriptorList {properties : List String}
    (hMapped : ∀ p ∈ properties, ∃ f ∈ mappedFields t.binding, f.property = p) :
    Braced 1 (descriptorList properties) := by
  refine .intercalate (.ofList (by decide)) (List.forall_mem_map.mpr fun p hp => ?_)
  obtain ⟨f, hField, rfl⟩ := hMapped p hp
  exact braced_variableName (k.type.field (mem_mappedFields.mp hField).1) .descriptor

theorem closed_closingLines {keys : List String} (hKeys : identities t.binding = .ok keys) :
    Closed (closingLines (plainProperties t.binding) keys) := by
  have hPlain : Braced 1 (descriptorList (plainProperties t.binding)) := by
    refine braced_descriptorList k fun p hp => ?_
    obtain ⟨f, hField, rfl⟩ := List.mem_map.mp hp
    exact ⟨f, (List.mem_filter.mp hField).1, rfl⟩
  have hIdentities : Braced 1 (descriptorList keys) := by
    refine braced_descriptorList k fun p hp => ?_
    obtain ⟨f, hField, hProperty, -⟩ := exists_field_of_mem_identities hKeys hp
    exact ⟨f, hField, hProperty⟩
  refine .cons (.ofList (by decide)) (.cons ?_ (.singleton ?_))
  · exact .wrapped (.ofList (by decide)) hPlain (.ofList (by decide))
  · exact .wrapped (.ofList (by decide)) hIdentities (.ofList (by decide))

theorem braceless_imports : ∀ q ∈ Relational.imports s t.binding, Braceless q := by
  have hBase : Braceless s.runtime.jdoDescriptorBase :=
    k.settings.runtime _ (by simp [RuntimeClasses.strings])
  have hMode : Braceless s.runtime.accessMode :=
    k.settings.runtime _ (by simp [RuntimeClasses.strings])
  have hClass : Braceless t.binding.boundClass := k.type.name
  have hMapping : ∀ q ∈ mappingClasses, Braceless q := by
    simp only [mappingClasses, List.forall_mem_cons]
    and_intros
    all_goals with_reducible first | exact List.forall_mem_nil _ | exact .ofList (by decide)
  simp only [imports, List.cons_append, List.forall_mem_append, List.forall_mem_cons,
    List.forall_mem_flatMap]
  refine ⟨hBase, ⟨hMapping, hMode, hClass, List.forall_mem_nil _⟩, fun f hField => ?_⟩
  exact (k.type.field (mem_mappedFields.mp hField).1).valueType.imports

theorem isBraced_describe {name : String} (hName : Braceless name) {d : ClassDecl}
    (hDescribe : describe s name t = .ok d) : d.IsBraced := by
  obtain ⟨keys, hKeys, rfl⟩ := exists_identities_of_describe hDescribe
  have hBase : Braceless s.runtime.jdoDescriptorBase :=
    k.settings.runtime _ (by simp [RuntimeClasses.strings])
  have hComment : Braced 1 ("Class " ++ simpleName name ++ ".") :=
    .enclosed (by decide) hName.simpleName.braced (by decide)
  have hLines : Closed (constructorLines s t.binding keys) :=
    ((closed_openingLines k).append (closed_fieldBlocks k)).append (closed_closingLines k hKeys)
  obtain ⟨imports, hImports⟩ :=
    (ClassDecl.ofName name).exists_addImports_eq (Relational.imports s t.binding)
  rw [withIdentities, hImports]
  exact ⟨List.forall_mem_singleton.mpr hBase.simpleName, List.forall_mem_singleton.mpr hComment,
    List.forall_mem_nil _, List.forall_mem_nil _,
    List.forall_mem_singleton.mpr (ConstructorDecl.isBraced_plain hLines)⟩

end Described

end Relational

end Descriptor

end BeanGen
