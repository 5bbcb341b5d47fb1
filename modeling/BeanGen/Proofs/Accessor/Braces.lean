import BeanGen.Proofs.Accessor.Form
import BeanGen.Proofs.Accessor.Imports
import BeanGen.Proofs.Java.Braces

/-!
# Braces of accessors

If no text of a field has a brace, the only braces of its members and accessors are those of fixed
lines, and every accessor closes those it opens.
-/

namespace BeanGen

open Java Text

def SchemaNote.strings (n : SchemaNote) : List String :=
  n.entries.flatMap fun d => d.content.toList ++ d.source.toList

def ContentKind.strings : ContentKind → List String
  | .bound className => [className]
  | _ => []

/-- The texts of a field, as a schema gives them. -/
def BoundField.strings (f : BoundField) : List String :=
  f.name :: f.suffix :: f.content.strings ++ f.defaultValue.toList ++ f.externalName.toList ++
    f.columnName.toList ++ f.notes.flatMap (·.strings)

theorem braceless_visibleComment? {notes : List SchemaNote}
    (h : ∀ text ∈ notes.flatMap (·.strings), Braceless text) :
    ∀ comment ∈ (visibleComment? notes).toList, Braceless comment := by
  intro comment hComment
  have hText : Braceless (noteText notes) := by
    refine Braceless.join fun text hText => h text ?_
    obtain ⟨d, hd, hContent⟩ := List.mem_filterMap.mp hText
    obtain ⟨n, hn, hEntry⟩ := List.mem_flatMap.mp hd
    refine List.mem_flatMap.mpr ⟨n, hn, List.mem_flatMap.mpr ⟨d, hEntry, ?_⟩⟩
    simp [hContent]
  rw [Option.mem_toList, visibleComment?, Option.filter_eq_some_iff, commentOf?] at hComment
  obtain ⟨hSome, -⟩ := hComment
  split at hSome
  · cases hSome
  · exact Option.some.inj hSome ▸ hText.oneLine

/-! ## Types of values -/

/-- No text of a type of values has a brace. -/
structure Java.ValueType.IsBraceless (t : ValueType) : Prop where
  unboxed : Braceless t.unboxed
  boxed : Braceless t.boxed
  columnType : Braceless t.columnType

theorem ContentKind.braceless_valueType {k : ContentKind} (h : ∀ text ∈ k.strings, Braceless text) :
    k.valueType.IsBraceless := by
  cases k with
  | bound className =>
    have hClass : Braceless className := h className List.mem_cons_self
    exact ⟨hClass, hClass, .ofList (by decide)⟩
  | _ => exact ⟨.ofList (by decide), .ofList (by decide), .ofList (by decide)⟩

namespace Java.ValueType.IsBraceless

variable {t : ValueType} (h : t.IsBraceless)
include h

theorem written : Braced 1 t.written :=
  h.unboxed.simpleName.braced

theorem writtenBoxed : Braced 1 t.writtenBoxed :=
  h.boxed.simpleName.braced

theorem imports : ∀ q ∈ t.imports, Braceless q := by
  rw [ValueType.imports]
  split
  · exact List.forall_mem_nil _
  · exact List.forall_mem_singleton.mpr h.boxed

theorem toObject {expr : String} (hExpr : Braced 1 expr) : Braced 1 (t.toObject expr) := by
  have hBoxed := h.boxed.braced
  rw [ValueType.toObject]
  split
  · repeat' with_reducible apply Braced.append
    all_goals first | with_reducible assumption | exact .ofList (by decide)
  · exact hExpr

theorem fromObject {expr : String} (hExpr : Braced 1 expr) : Braced 1 (t.fromObject expr) := by
  have hBoxed := h.boxed.braced
  have hUnboxed := h.unboxed.braced
  have hWritten := h.written
  rw [ValueType.fromObject]
  split
  all_goals repeat' with_reducible apply Braced.append
  all_goals first | with_reducible assumption | exact .ofList (by decide)

omit h in
theorem literal (t : ValueType) {value : String} (hValue : Braceless value) :
    Braced 1 (t.literal value) := by
  have hRaw := hValue.braced
  have hString := hValue.stringLiteral.braced
  have hChar := hValue.charLiteral.braced
  rw [ValueType.literal]
  split
  all_goals repeat' with_reducible apply Braced.append
  all_goals first | with_reducible assumption | exact .ofList (by decide)

end Java.ValueType.IsBraceless

/-! ## Fields -/

/-- No text of a field has a brace. -/
def BoundField.IsBraceless (f : BoundField) : Prop :=
  ∀ text ∈ f.strings, Braceless text

namespace BoundField.IsBraceless

variable {f : BoundField} (h : f.IsBraceless)
include h

theorem name : Braceless f.name :=
  h _ (by simp [strings])

theorem suffix : Braceless f.suffix :=
  h _ (by simp [strings])

theorem property : Braceless f.property := by
  rw [BoundField.property, stripUnderscore]
  split
  · rename_i rest hName
    refine .of_subset h.name ?_
    rw [hName]
    exact List.subset_cons_self _ _
  · exact h.name

theorem xmlName : Braceless f.xmlName := by
  rw [BoundField.xmlName]
  cases hName : f.externalName with
  | none => exact h.property
  | some name => exact h name (by simp [strings, hName])

theorem sqlName : Braceless f.sqlName := by
  rw [BoundField.sqlName]
  cases hName : f.columnName with
  | none => exact h.xmlName
  | some name => exact h name (by simp [strings, hName])

theorem valueType : f.valueType.IsBraceless :=
  ContentKind.braceless_valueType fun text hText => h text (by simp [strings, hText])

theorem comment : ∀ text ∈ (visibleComment? f.notes).toList, Braced 1 text := by
  have hNotes : ∀ text ∈ f.notes.flatMap (·.strings), Braceless text := fun text hText =>
    h text (List.mem_append_right _ hText)
  exact fun text hText => (braceless_visibleComment? hNotes text hText).braced

theorem default {value : String} (hDefault : f.effectiveDefault? = some value) :
    Braced 1 (f.valueType.literal value) := by
  have hValue : f.defaultValue = some value := (Option.filter_eq_some_iff.mp hDefault).1
  exact ValueType.IsBraceless.literal _ (h value (by simp [strings, hValue]))

theorem readMethod : Braced 1 f.readMethod :=
  .append (.ofList (by decide)) h.suffix.braced

theorem writeMethod : Braced 1 f.writeMethod :=
  .append (.ofList (by decide)) h.suffix.braced

theorem parameter : Braced 1 f.parameter :=
  .append (.ofList (by decide)) h.suffix.braced

theorem flagName : Braced 1 f.flagName :=
  .append (.ofList (by decide)) h.property.braced

end BoundField.IsBraceless

namespace Accessor

/-! ## Members and accessors of a single value -/

section Single

variable {f : BoundField} (k : f.IsBraceless)
include k

theorem braced_formerName : Braced 1 (Scalar.formerName f) :=
  .append (.ofList (by decide)) k.property.capitalize.braced

theorem closed_callIfBound {old : String} (hOld : Braced 1 old) :
    Closed (ChangeNotice.callIfBound f old) := by
  have hName := k.name.braced
  have hProperty := k.property.braced
  refine .ite (fun _ => ?_) fun _ => .nil
  refine Bracing.closed [1, 1, 1] ?_ rfl
  simp only [ChangeNotice.call, ChangeNotice.notifyMethod, bracing_cons, bracing_nil, text_line,
    and_true]
  and_intros
  all_goals repeat' with_reducible apply Braced.append
  all_goals first | with_reducible assumption | exact .ofList (by decide)

theorem closed_setterLines : Closed (Scalar.setterLines f) := by
  have hName := k.name.braced
  have hProperty := k.property.braced
  have hFormer := braced_formerName k
  have hFlag := k.flagName
  have hMember : Braced 1 ("this." ++ f.name) := .append (.ofList (by decide)) hName
  have hObject := k.valueType.toObject hMember
  refine .append (.append (.append (.ite (fun _ => .singleton ?_) fun _ => .nil) (.singleton ?_))
    (.ite (fun _ => .singleton ?_) fun _ => .nil)) (closed_callIfBound k hFormer)
  all_goals repeat' with_reducible apply Braced.append
  all_goals first | with_reducible assumption | exact .ofList (by decide)

theorem closed_scalarInitialLines : Closed (Scalar.initialLines f) := by
  rw [Scalar.initialLines]
  split
  · exact .nil
  · rename_i value hDefault
    have hName := k.name.braced
    have hLiteral := k.default hDefault
    refine .singleton ?_
    repeat' with_reducible apply Braced.append
    all_goals first | with_reducible assumption | exact .ofList (by decide)

theorem isBraced_scalarMembers : ∀ d ∈ Scalar.members f, d.IsBraced := by
  have hName := k.name.braced
  have hValue : (Scalar.valueMember f).IsBraced :=
    ⟨k.valueType.written, hName, List.forall_mem_nil _, k.comment⟩
  have hComment : Braced 1 ("Keeps track of whether '" ++ f.name ++ "' has been set.") :=
    .enclosed (by decide) hName (by decide)
  have hFlag : (Scalar.flagMember f).IsBraced :=
    FieldDecl.isBraced_documented (.ofList (by decide)) k.flagName hComment
  rw [Scalar.members]
  split
  · exact List.forall_mem_cons.mpr ⟨hValue, List.forall_mem_singleton.mpr hFlag⟩
  · exact List.forall_mem_singleton.mpr hValue

end Single

/-! ## Change notices -/

theorem braced_supportClass : Braced 1 (simpleName ChangeNotice.supportClass) := by
  have hClass : Braceless ChangeNotice.supportClass := .ofList (by decide)
  exact hClass.simpleName.braced

theorem braceless_listenerNames : ∀ q ∈ listenerNames, Braceless q := by
  simp only [listenerNames, List.forall_mem_cons]
  exact ⟨.ofList (by decide), .ofList (by decide), List.forall_mem_nil _⟩

theorem isBraced_noticeMember : ChangeNotice.member.IsBraced :=
  FieldDecl.isBraced_documented braced_supportClass (.ofList (by decide)) (.ofList (by decide))

theorem isBraced_noticeMethods : ∀ m ∈ ChangeNotice.methods, m.IsBraced := by
  have hSupport := braced_supportClass
  have hListeners : ∀ p ∈ [(⟨simpleName ChangeNotice.listenerClass, "pcl"⟩ : Parameter)],
      p.IsBraced := by
    have hClass : Braceless ChangeNotice.listenerClass := .ofList (by decide)
    exact List.forall_mem_singleton.mpr ⟨hClass.simpleName.braced, .ofList (by decide)⟩
  have hTold : ∀ p ∈ ChangeNotice.tellAll.parameters, p.IsBraced := by
    simp only [ChangeNotice.tellAll, MethodDecl.plain, List.forall_mem_cons]
    exact ⟨⟨.ofList (by decide), .ofList (by decide)⟩, ⟨.ofList (by decide), .ofList (by decide)⟩,
      ⟨.ofList (by decide), .ofList (by decide)⟩, List.forall_mem_nil _⟩
  have hBodies : Closed ChangeNotice.tellAll.body.lines ∧ Closed ChangeNotice.register.body.lines ∧
      Closed ChangeNotice.unregister.body.lines := by
    refine ⟨Bracing.closed [.left, 1, .right, 1] ?_ rfl,
      Bracing.closed [.left, 1, .right, 1] ?_ rfl, Bracing.closed [.left, 1, .right, 1, 1] ?_ rfl⟩
    all_goals
      simp only [ChangeNotice.tellAll, ChangeNotice.register, ChangeNotice.unregister,
        ChangeNotice.ifUnused, MethodDecl.plain, Block.ofLines, bracing_cons, bracing_nil,
        text_line, text_indented, and_true]
      and_intros
    all_goals repeat' with_reducible apply Braced.append
    all_goals first | with_reducible assumption | exact .ofList (by decide)
  obtain ⟨hTell, hRegister, hUnregister⟩ := hBodies
  simp only [ChangeNotice.methods, List.forall_mem_cons]
  refine ⟨?_, ?_, ?_, List.forall_mem_nil _⟩
  · exact ⟨.ofList (by decide), List.forall_mem_nil _, hTold, List.forall_mem_nil _,
      List.forall_mem_singleton.mpr (.ofList (by decide)), hTell⟩
  · exact MethodDecl.isBraced_plain (.ofList (by decide)) (List.forall_mem_nil _) hListeners
      (.ofList (by decide)) hRegister
  · exact MethodDecl.isBraced_plain (.ofList (by decide))
      (List.forall_mem_singleton.mpr (.ofList (by decide))) hListeners (.ofList (by decide))
      hUnregister

theorem isBraced_installIfBound {c : ClassDecl} (h : c.IsBraced) (f : BoundField) :
    (ChangeNotice.installIfBound f c).IsBraced := by
  rw [ChangeNotice.installIfBound, ChangeNotice.install]
  split
  · split
    · exact h
    · exact ((h.addImports _).addField isBraced_noticeMember).addMethods isBraced_noticeMethods
  · exact h

/-! ## Accessors of a collection -/

/-- No text of a field has a brace, and neither does what an external store is made from. -/
structure Unbraced (h : Holding) (f : BoundField) : Prop where
  field : f.IsBraceless
  storeType : Braceless h.storeType
  storeFactory : Braceless h.storeFactory

namespace Unbraced

variable {h : Holding} {f : BoundField} (k : Unbraced h f)
include k

theorem memberClass : Braceless h.memberClass := by
  rw [Holding.memberClass]
  split
  · exact .ofList (by decide)
  · exact .ofList (by decide)
  · exact .ofList (by decide)
  · exact k.storeType

omit k in
theorem createdClass {className : String} (hCreated : h.createdClass? = some className) :
    Braceless className := by
  rw [Holding.createdClass?] at hCreated
  split at hCreated
  · exact Option.some.inj hCreated ▸ .ofList (by decide)
  · exact Option.some.inj hCreated ▸ .ofList (by decide)
  · exact Option.some.inj hCreated ▸ .ofList (by decide)
  · cases hCreated

theorem valueType : Braced 1 (h.valueType f) := by
  rw [Holding.valueType]
  split
  · exact k.field.valueType.writtenBoxed
  · exact k.field.valueType.written

theorem ofElements {className : String} (hClass : Braceless className) :
    Braced 1 (h.ofElements f className) := by
  have hSimple := hClass.simpleName.braced
  have hValue := k.valueType
  rw [Holding.ofElements]
  split
  all_goals repeat' with_reducible apply Braced.append
  all_goals first | with_reducible assumption | exact .ofList (by decide)

theorem typedResult {className : String} (hClass : Braceless className) :
    Braced 1 (Collection.typedResult h f className) := by
  have hSimple := hClass.simpleName.braced
  have hValue := k.valueType
  rw [Collection.typedResult]
  split
  all_goals repeat' with_reducible apply Braced.append
  all_goals first | with_reducible assumption | exact .ofList (by decide)

theorem emptyValue : Braced 1 (h.emptyValue f) := by
  rw [Holding.emptyValue]
  split
  · rename_i className hCreated
    exact .enclosed (by decide) (k.ofElements (createdClass hCreated)) (by decide)
  · exact k.storeFactory.braced

theorem member : Braced 1 (h.layout f).member :=
  .append (.ofList (by decide)) k.field.name.braced

theorem memberType : Braced 1 (h.layout f).memberType :=
  k.ofElements k.memberClass

theorem arrayType : Braced 1 (h.layout f).arrayType :=
  .append k.valueType (.ofList (by decide))

theorem toElement {expr : String} (hExpr : Braced 1 expr) :
    Braced 1 ((h.layout f).toElement expr) := by
  rw [Layout.toElement]
  split
  · exact hExpr
  · exact k.field.valueType.toObject hExpr

theorem fromElement {expr : String} (hExpr : Braced 1 expr) :
    Braced 1 ((h.layout f).fromElement expr) := by
  rw [Layout.fromElement]
  split
  · exact hExpr
  · exact k.field.valueType.fromObject hExpr

/-! ### Blocks of lines -/

theorem closed_noticeIfBound : Closed (Collection.noticeIfBound f) :=
  closed_callIfBound k.field (.ofList (by decide))

theorem closed_sizeGuard {methodName : String} (hMethod : Braced 1 methodName) :
    Closed (Collection.sizeGuard f methodName) := by
  have hName := k.field.name.braced
  have hMax : Braced 1 (toString f.maxSize) := (Braceless.ofInt f.maxSize).braced
  refine .ite (fun _ => .nil) fun _ => Bracing.closed [1, .left, 1, .right, 1] ?_ rfl
  simp only [bracing_cons, bracing_nil, text_line, text_indented, and_true]
  and_intros
  all_goals repeat' with_reducible apply Braced.append
  all_goals first | with_reducible assumption | exact .ofList (by decide)

theorem closed_indexGuard {methodName : String} (hMethod : Braced 1 methodName) :
    Closed (Collection.indexGuard (h.layout f) methodName) := by
  have hMember := k.member
  refine Bracing.closed [1, .left, 1, .right, 1] ?_ rfl
  simp only [Collection.indexGuard, bracing_cons, bracing_nil, text_line, text_indented, and_true]
  and_intros
  all_goals repeat' with_reducible apply Braced.append
  all_goals first | with_reducible assumption | exact .ofList (by decide)

theorem closed_drainLines : Closed (Collection.drainLines h f) := by
  have hVector : Braceless "java.util.Vector" := .ofList (by decide)
  have hType := k.typedResult hVector
  have hMember := k.member
  have hValue : Braced 1 (h.layout f).valueType := k.valueType
  refine Bracing.closed [1, 1, 1, .left, 1, .right, 1, 1] ?_ rfl
  simp only [Collection.drainLines, bracing_cons, bracing_nil, text_line, text_indented, and_true]
  and_intros
  all_goals try split
  all_goals repeat' with_reducible apply Braced.append
  all_goals first | with_reducible assumption | exact .ofList (by decide)

theorem closed_enumerationLines : Closed (Collection.enumerationLines h f) := by
  have hMember := k.member
  rw [Collection.enumerationLines]
  split
  · exact .singleton (.enclosed (by decide) hMember (by decide))
  · exact .singleton (.enclosed (by decide) hMember (by decide))
  · exact .singleton (.enclosed (by decide) hMember (by decide))
  · exact k.closed_drainLines

theorem closed_arrayLines : Closed (Collection.arrayLines (h.layout f)) := by
  have hMember := k.member
  have hArray := k.arrayType
  have hValue : Braced 1 (h.layout f).valueType := k.valueType
  have hElement : Braced 1 ((h.layout f).element.fromObject "iter.next()") :=
    k.field.valueType.fromObject (.ofList (by decide))
  refine .ite (fun _ => Bracing.closed [1, 1] ?_ rfl)
    fun _ => Bracing.closed [1, 1, 1, .left, 1, .right, 1] ?_ rfl
  all_goals simp only [bracing_cons, bracing_nil, text_line, text_indented, and_true]
  all_goals and_intros
  all_goals repeat' with_reducible apply Braced.append
  all_goals first | with_reducible assumption | exact .ofList (by decide)

/-! ### Methods -/

theorem name (markers : List String) (a : Form) : Braced 1 (a.method h markers f).name := by
  have hVerb : Braced 1 a.verb.text := by cases a.verb <;> exact .ofList (by decide)
  have hEnding : Braced 1 a.ending.text := by cases a.ending <;> exact .ofList (by decide)
  rw [Form.name_method]
  exact hVerb.append (k.field.suffix.braced.append hEnding)

theorem result (markers : List String) (a : Form) :
    ∀ type ∈ (a.method h markers f).returnType.toList, Braced 1 type := by
  have hEnumeration : Braceless "java.util.Enumeration" := .ofList (by decide)
  have hIterator : Braceless "java.util.Iterator" := .ofList (by decide)
  cases a with
  | getter => exact List.forall_mem_singleton.mpr k.field.valueType.written
  | predicate | hasValue | getCount | remove =>
    exact List.forall_mem_singleton.mpr (.ofList (by decide))
  | enumerate => exact List.forall_mem_singleton.mpr (k.typedResult hEnumeration)
  | iterate => exact List.forall_mem_singleton.mpr (k.typedResult hIterator)
  | getAt | removeAt => exact List.forall_mem_singleton.mpr k.valueType
  | getArray => exact List.forall_mem_singleton.mpr k.arrayType
  | getReference => exact List.forall_mem_singleton.mpr k.memberType
  | _ => exact List.forall_mem_nil _

theorem parameters (markers : List String) (a : Form) :
    ∀ p ∈ (a.method h markers f).parameters, p.IsBraced := by
  have hIndex : (⟨"int", "index"⟩ : Parameter).IsBraced :=
    ⟨.ofList (by decide), .ofList (by decide)⟩
  have hOne : (⟨(h.layout f).valueType, f.parameter⟩ : Parameter).IsBraced :=
    ⟨k.valueType, k.field.parameter⟩
  cases a with
  | setter =>
    exact List.forall_mem_singleton.mpr ⟨k.field.valueType.written, k.field.property.braced⟩
  | add | remove => exact List.forall_mem_singleton.mpr hOne
  | addAt | setAt =>
    exact List.forall_mem_cons.mpr ⟨hIndex, List.forall_mem_singleton.mpr hOne⟩
  | getAt | removeAt => exact List.forall_mem_singleton.mpr hIndex
  | setArray =>
    have hArray : Braced 1 (f.parameter ++ "Array") :=
      k.field.parameter.append (.ofList (by decide))
    exact List.forall_mem_singleton.mpr ⟨k.arrayType, hArray⟩
  | setCopy =>
    have hList : Braced 1 (f.parameter ++ "List") :=
      k.field.parameter.append (.ofList (by decide))
    exact List.forall_mem_singleton.mpr ⟨k.memberType, hList⟩
  | setReference =>
    have hOther : Braced 1 (f.property ++ "Collection") :=
      k.field.property.braced.append (.ofList (by decide))
    exact List.forall_mem_singleton.mpr ⟨k.memberType, hOther⟩
  | _ => exact List.forall_mem_nil _

omit k in
theorem clauses {markers : List String} (hMarkers : ∀ text ∈ markers, Braceless text) (a : Form) :
    ∀ text ∈ (a.method h markers f).throwing ++ (a.method h markers f).markers, Braced 1 text := by
  cases a with
  | add | addAt | getAt | setAt => exact List.forall_mem_singleton.mpr (.ofList (by decide))
  | getArray => exact fun text hText => (hMarkers text hText).braced
  | _ => exact List.forall_mem_nil _

theorem comment (markers : List String) (a : Form) :
    ∀ text ∈ (a.method h markers f).comment.toList, Braced 1 text := by
  have hProperty := k.field.property.braced
  have hMentioned : Braced 1 (Collection.mentioned f) := .enclosed (by decide) hProperty (by decide)
  cases a
  all_goals refine List.forall_mem_singleton.mpr ?_
  all_goals repeat' with_reducible apply Braced.append
  all_goals first | with_reducible assumption | exact .ofList (by decide)

theorem closed_setArray : Closed (Collection.setArray h f).method.body.lines := by
  have hMember := k.member
  have hArray : Braced 1 (f.parameter ++ "Array") := k.field.parameter.append (.ofList (by decide))
  have hItem : Braced 1 (f.parameter ++ "Array" ++ "[i]") := hArray.append (.ofList (by decide))
  have hElement := k.toElement hItem
  refine .append (Bracing.closed [1, 1, 1, .left, 1, .right] ?_ rfl) k.closed_noticeIfBound
  simp only [bracing_cons, bracing_nil, text_line, text_indented, and_true]
  and_intros
  all_goals repeat' first | with_reducible assumption | with_reducible apply Braced.append
  all_goals exact .ofList (by decide)

theorem body (markers : List String) (a : Form) : Closed (a.method h markers f).body.lines := by
  have hName := k.field.name.braced
  have hFlag := k.field.flagName
  have hMember := k.member
  have hElement := k.toElement k.field.parameter
  have hAdding : Braced 1 ("add" ++ f.suffix) := .append (.ofList (by decide)) k.field.suffix.braced
  have hOther : Braced 1 (f.parameter ++ "List") := k.field.parameter.append (.ofList (by decide))
  have hNotice := k.closed_noticeIfBound
  cases a with
  | setter => exact closed_setterLines k.field
  | enumerate => exact k.closed_enumerationLines
  | getArray => exact k.closed_arrayLines
  | setArray => exact k.closed_setArray
  | getter | predicate => exact .singleton (.enclosed (by decide) hName (by decide))
  | hasValue | deletion => exact .singleton (.enclosed (by decide) hFlag (by decide))
  | getCount => exact .singleton (.enclosed (by decide) hName (by decide))
  | iterate | getReference => exact .singleton (.enclosed (by decide) hMember (by decide))
  | removeAll => exact .cons (.enclosed (by decide) hName (by decide)) hNotice
  | add =>
    refine .append (.append (k.closed_sizeGuard hAdding) (.singleton ?_)) hNotice
    exact ((hMember.append (.ofList (by decide))).append hElement).append (.ofList (by decide))
  | addAt =>
    refine .append (.append (k.closed_sizeGuard hAdding) (.singleton ?_)) hNotice
    exact ((hMember.append (.ofList (by decide))).append hElement).append (.ofList (by decide))
  | getAt =>
    have hItem := k.fromElement (hMember.append (b := ".get(index)") (.ofList (by decide)))
    refine .append (k.closed_indexGuard k.field.readMethod) (.singleton ?_)
    exact .enclosed (by decide) hItem (by decide)
  | setAt =>
    refine .append (.append (k.closed_indexGuard k.field.writeMethod) ?_) hNotice
    refine .cons (.ofList (by decide)) (.singleton ?_)
    exact ((hMember.append (.ofList (by decide))).append hElement).append (.ofList (by decide))
  | remove =>
    refine .append (.append (.singleton ?_) hNotice) (.singleton (.ofList (by decide)))
    exact ((Braced.enclosed (by decide) hMember (by decide)).append hElement).append
      (.ofList (by decide))
  | removeAt =>
    have hHolder :
        Braced 1 (if (h.layout f).isTyped then (h.layout f).valueType else "Object") := by
      split
      · exact k.valueType
      · exact .ofList (by decide)
    have hName : Braced 1 "obj" := .ofList (by decide)
    have hObject := k.fromElement hName
    refine .append (.append (.singleton ?_) hNotice) (.singleton ?_)
    · exact ((hHolder.append (.ofList (by decide))).append hMember).append (.ofList (by decide))
    · exact .enclosed (by decide) hObject (by decide)
  | setCopy =>
    refine .append (Bracing.closed [1, 1, 1, 1] ?_ rfl) hNotice
    simp only [bracing_cons, bracing_nil, text_line, and_true]
    and_intros
    all_goals repeat' first | with_reducible assumption | with_reducible apply Braced.append
    all_goals exact .ofList (by decide)
  | setReference =>
    refine .cons ?_ hNotice
    have hCollection : Braced 1 (f.property ++ "Collection") :=
      k.field.property.braced.append (.ofList (by decide))
    exact ((hMember.append (.ofList (by decide))).append hCollection).append (.ofList (by decide))

theorem isBraced_method {markers : List String} (hMarkers : ∀ text ∈ markers, Braceless text)
    (a : Form) : (a.method h markers f).IsBraced where
  name := k.name markers a
  result := k.result markers a
  parameters := k.parameters markers a
  clauses := clauses hMarkers a
  comment := k.comment markers a
  body := k.body markers a

/-! ### The member -/

theorem isBraced_member : (Collection.member h f).IsBraced :=
  ⟨k.memberType, k.field.name.braced, List.forall_mem_nil _, k.field.comment⟩

theorem closed_initialLines : Closed (Collection.initialLines h f) := by
  have hMember := k.member
  have hEmpty : Braced 1 (h.layout f).emptyValue := k.emptyValue
  have hCreate : Braced 1 ((h.layout f).member ++ " = " ++ (h.layout f).emptyValue ++ ";") :=
    ((hMember.append (.ofList (by decide))).append hEmpty).append (.ofList (by decide))
  simp only [Collection.initialLines]
  split
  · exact .singleton hCreate
  · rename_i value hDefault
    have hElement := k.toElement (k.field.default hDefault)
    refine .cons hCreate (.singleton ?_)
    exact ((hMember.append (.ofList (by decide))).append hElement).append (.ofList (by decide))

theorem imports : ∀ q ∈ collectionNames h f, Braceless q := by
  simp only [collectionNames, Holding.layout, List.forall_mem_append, List.forall_mem_cons]
  refine ⟨⟨⟨⟨k.memberClass, k.field.valueType.imports⟩, ?_⟩, ?_⟩, ?_⟩
  · exact fun q hq => createdClass (Option.mem_toList.mp hq)
  · exact ⟨.ofList (by decide), .ofList (by decide), List.forall_mem_nil _⟩
  · cases h.policy with
    | legacyIndexed => exact List.forall_mem_nil _
    | modernIndexed | noIndex => exact List.forall_mem_singleton.mpr (.ofList (by decide))
    | externalStoreBacked =>
      exact List.forall_mem_cons.mpr ⟨.ofList (by decide),
        List.forall_mem_singleton.mpr (.ofList (by decide))⟩

end Unbraced

end Accessor

end BeanGen
