import BeanGen.Proofs.Accessor.Form
import BeanGen.Proofs.Accessor.Imports
import BeanGen.Proofs.Java.Spelling

/-!
# How accessors are spelled

Whatever class the members and accessors of a field name, the field asks for.
-/

namespace BeanGen

open Java

/-- What a field supplies to the text of its accessors: names, numbers and its default. -/
def BoundField.texts (f : BoundField) : List String :=
  [f.name, f.property, Text.capitalize f.property, f.suffix, f.parameter ++ "Array",
    f.parameter ++ "List", f.property ++ "Collection", toString f.maxSize] ++
    f.effectiveDefault?.toList.flatMap fun value =>
      [value, stringLiteral value, charLiteral value, value ++ "L"]

variable {supplied named : String → Prop}

/-! ## Types of values -/

namespace ContentKind

variable {k : ContentKind}

/-- The classes that a kind of value asks for are known. -/
def Named (named : String → Prop) (k : ContentKind) : Prop :=
  ∀ q ∈ k.valueType.imports, named q

theorem Named.written (h : k.Named named) : Spelled supplied named k.valueType.written := by
  cases k with
  | string | decimal | date | bound => exact .className (h _ List.mem_cons_self)
  | _ => exact .plain (by decide)

theorem Named.writtenBoxed (h : k.Named named) :
    Spelled supplied named k.valueType.writtenBoxed := by
  cases k with
  | string | decimal | date | bound => exact .className (h _ List.mem_cons_self)
  | _ => exact .plain (by decide)

theorem spelled_boxed (hPrimitive : k.valueType.isPrimitive = true) :
    Spelled supplied named k.valueType.boxed := by
  cases k with
  | string | decimal | date | bound => cases hPrimitive
  | _ => exact .plain (by decide)

/-- The method that takes a value out of its box. -/
theorem spelled_unboxing (hPrimitive : k.valueType.isPrimitive = true) :
    Spelled supplied named (k.valueType.unboxed ++ "Value()") := by
  cases k with
  | string | decimal | date | bound => cases hPrimitive
  | _ => exact .fixed (List.forall_mem_nil _) (by decide)

theorem spelled_toObject {expr : String} (h : Spelled supplied named expr) :
    Spelled supplied named (k.valueType.toObject expr) := by
  rw [ValueType.toObject]
  split
  · rename_i hPrimitive
    exact (((spelled_boxed hPrimitive).followed _ (by decide)).append h).followed _ (by decide)
  · exact h

theorem Named.fromObject (hNamed : k.Named named) {expr : String}
    (h : Spelled supplied named expr) : Spelled supplied named (k.valueType.fromObject expr) := by
  rw [ValueType.fromObject]
  split
  · rename_i hPrimitive
    rw [String.append_assoc]
    refine .append ?_ (spelled_unboxing hPrimitive)
    refine .followed (.append ?_ h) _ (by decide)
    exact .enclosed (by decide) (spelled_boxed hPrimitive) (by decide)
  · exact (Spelled.enclosed (by decide) hNamed.written (by decide)).append h

theorem Named.literal (hNamed : k.Named named) {value : String}
    (hValue : ∀ text ∈ [value, stringLiteral value, charLiteral value, value ++ "L"],
      supplied text) :
    Spelled supplied named (k.valueType.literal value) := by
  simp only [List.forall_mem_cons] at hValue
  obtain ⟨hRaw, hString, hChar, hLong, -⟩ := hValue
  rw [ValueType.literal]
  split
  · exact .supplied hString
  · exact .supplied hChar
  · exact .append (.plain (by decide)) (.supplied hRaw)
  · exact .append (.plain (by decide)) (.supplied hRaw)
  · exact .supplied hLong
  · exact .append (.supplied hRaw) (.plain (by decide))
  · rename_i hDecimal
    have hClass : ∀ q ∈ ["java.math.BigDecimal"], named q := by
      cases k with
      | decimal => exact hNamed
      | bound className =>
        obtain rfl : className = "java.math.BigDecimal" := hDecimal
        exact hNamed
      | _ => exact absurd hDecimal (by decide)
    exact (Spelled.append (.fixed hClass (by decide)) (.supplied hString)).followed _ (by decide)
  · exact .supplied hRaw

end ContentKind

namespace Accessor

/-! ## Members and accessors of a single value -/

/-- What a field supplies is known, and so is the class of its values. -/
structure Known (supplied named : String → Prop) (f : BoundField) : Prop where
  texts : ∀ text ∈ f.texts, supplied text
  content : f.content.Named named

namespace Known

variable {f : BoundField} (h : Known supplied named f)
include h

theorem name : Spelled supplied named f.name :=
  .supplied (h.texts _ (by simp [BoundField.texts]))

theorem property : Spelled supplied named f.property :=
  .supplied (h.texts _ (by simp [BoundField.texts]))

theorem suffix : Spelled supplied named f.suffix :=
  .supplied (h.texts _ (by simp [BoundField.texts]))

theorem formerName : Spelled supplied named (Scalar.formerName f) :=
  .append (.plain (by decide)) (.supplied (h.texts _ (by simp [BoundField.texts])))

theorem flagName : Spelled supplied named f.flagName :=
  .append (.plain (by decide)) h.property

theorem written : Spelled supplied named f.valueType.written :=
  h.content.written

theorem default {value : String} (hValue : f.effectiveDefault? = some value) :
    Spelled supplied named (f.valueType.literal value) := by
  refine h.content.literal fun text hText => h.texts text ?_
  rw [BoundField.texts, hValue]
  exact List.mem_append_right _ (by simpa using hText)

theorem readMethod : Spelled supplied named f.readMethod :=
  .append (.plain (by decide)) h.suffix

theorem writeMethod : Spelled supplied named f.writeMethod :=
  .append (.plain (by decide)) h.suffix

theorem parameter : Spelled supplied named f.parameter :=
  .append (.plain (by decide)) h.suffix

theorem callIfBound {old : String} (hOld : Spelled supplied named old) :
    Spells supplied named (ChangeNotice.callIfBound f old) := by
  have hName := h.name
  have hProperty := h.property
  simp only [ChangeNotice.callIfBound, ChangeNotice.call, ChangeNotice.notifyMethod, spells_ite,
    spells_cons, spells_nil, text_line, and_true, implies_true]
  intro hBound
  and_intros
  all_goals repeat' with_reducible apply Spelled.append
  all_goals first | assumption | exact .plain (by decide)

theorem setterLines : Spells supplied named (Scalar.setterLines f) := by
  have hName := h.name
  have hProperty := h.property
  have hFormer := h.formerName
  have hFlag := h.flagName
  have hMember : Spelled supplied named ("this." ++ f.name) := .append (.plain (by decide)) hName
  have hObject : Spelled supplied named (f.valueType.toObject ("this." ++ f.name)) :=
    ContentKind.spelled_toObject hMember
  simp only [Scalar.setterLines, spells_append, spells_ite, spells_cons, spells_nil, text_line,
    and_true, implies_true]
  and_intros
  on_goal 4 => exact h.callIfBound hFormer
  all_goals try intro
  all_goals repeat' with_reducible apply Spelled.append
  all_goals first | assumption | exact .plain (by decide)

/-- The accessors of a single value name only its class. -/
theorem scalarMethod (holding : Holding) (markers : List String) (hSingle : f.isCollection = false)
    {a : Form} (hA : a.isCalledFor holding f = true) :
    ∀ text ∈ (a.method holding markers f).codeTexts, Spelled supplied named text := by
  have hMember : Spelled supplied named ("return this." ++ f.name ++ ";") :=
    .enclosed (by decide) h.name (by decide)
  cases a with
  | getter => exact MethodDecl.spelled_reading h.written hMember
  | setter =>
    exact MethodDecl.spelled_plain (by simp) (List.forall_mem_singleton.mpr h.written) h.setterLines
  | predicate => exact MethodDecl.spelled_reading (.plain (by decide)) hMember
  | hasValue =>
    exact MethodDecl.spelled_reading (.plain (by decide))
      (.enclosed (by decide) h.flagName (by decide))
  | deletion =>
    refine MethodDecl.spelled_plain (by simp) (by simp) ?_
    rw [spells_cons, text_line]
    exact ⟨.enclosed (by decide) h.flagName (by decide), spells_nil⟩
  | _ => simp [Form.isCalledFor, hSingle] at hA

theorem scalarMembers : ∀ d ∈ Scalar.members f, ∀ text ∈ d.codeTexts,
    Spelled supplied named text := by
  have hValue : ∀ text ∈ (Scalar.valueMember f).codeTexts, Spelled supplied named text := by
    simpa [Scalar.valueMember, FieldDecl.plain, FieldDecl.codeTexts] using h.written
  have hFlag : ∀ text ∈ (Scalar.flagMember f).codeTexts, Spelled supplied named text := by
    have hBoolean : Spelled supplied named "boolean" := .plain (by decide)
    simpa [Scalar.flagMember, FieldDecl.documented, FieldDecl.plain, FieldDecl.codeTexts]
  rw [Scalar.members]
  split <;>
    simp only [List.forall_mem_cons, List.not_mem_nil, false_implies, implies_true, and_true]
  · exact ⟨hValue, hFlag⟩
  · exact hValue

theorem scalarInitialLines : Spells supplied named (Scalar.initialLines f) := by
  rw [Scalar.initialLines]
  split
  · exact spells_nil
  · rename_i value hDefault
    rw [spells_cons, text_line]
    refine ⟨?_, spells_nil⟩
    exact ((Spelled.enclosed (by decide) h.name (by decide)).append (h.default hDefault)).followed _
      (by decide)

end Known

/-! ## Change notices -/

theorem spelled_notices (h : ∀ q ∈ listenerNames, named q) :
    (∀ text ∈ ChangeNotice.member.codeTexts, Spelled supplied named text) ∧
      ∀ m ∈ ChangeNotice.methods, ∀ text ∈ m.codeTexts, Spelled supplied named text := by
  have hSupport : Spelled supplied named (simpleName ChangeNotice.supportClass) :=
    .className (h _ (by simp [listenerNames]))
  have hListener : Spelled supplied named (simpleName ChangeNotice.listenerClass) :=
    .className (h _ (by simp [listenerNames]))
  refine ⟨List.forall_mem_singleton.mpr hSupport, ?_⟩
  simp only [ChangeNotice.methods, ChangeNotice.tellAll, ChangeNotice.register,
    ChangeNotice.unregister, ChangeNotice.ifUnused, MethodDecl.codeTexts, MethodDecl.plain,
    Block.ofLines, List.forall_mem_cons, List.forall_mem_append, List.forall_mem_map,
    Option.toList_none, Option.toList_some, List.not_mem_nil, false_implies, implies_true, true_and,
    and_true, text_line, text_indented]
  and_intros
  all_goals repeat' with_reducible apply Spelled.append
  all_goals first | with_reducible assumption | exact .plain (by decide)

theorem isSpelled_installIfBound {f : BoundField} {c : ClassDecl} (h : c.IsSpelled supplied named)
    (hNotices : (f.bound && !(c.field? ChangeNotice.supportField).isSome) = true →
      ∀ q ∈ listenerNames, named q) :
    (ChangeNotice.installIfBound f c).IsSpelled supplied named := by
  rw [ChangeNotice.installIfBound, ChangeNotice.install]
  split
  · rename_i hBound
    split
    · exact h
    · rename_i hFree
      have hNames : ∀ q ∈ listenerNames, named q := hNotices (by simp [hBound, hFree])
      obtain ⟨hMember, hMethods⟩ := @spelled_notices supplied named hNames
      exact ((h.addImports _).addField hMember).addMethods hMethods
  · exact h

/-! ## Accessors of a collection -/

/-- What a collection and the way it is held supply is known, and so are the classes it asks for. -/
structure KnownCollection (supplied named : String → Prop) (h : Holding) (f : BoundField) : Prop
    extends Known supplied named f where
  names : ∀ q ∈ collectionNames h f, named q
  factory : supplied h.storeFactory

namespace KnownCollection

variable {h : Holding} {f : BoundField} (k : KnownCollection supplied named h f)
include k

theorem memberClass : named h.memberClass :=
  k.names _ (by simp [collectionNames, Holding.layout])

theorem createdClass {className : String} (hCreated : h.createdClass? = some className) :
    named className :=
  k.names _ (by simp [collectionNames, Holding.layout, hCreated])

theorem enumeration : named "java.util.Enumeration" :=
  k.names _ (by simp [collectionNames])

theorem iterator : named "java.util.Iterator" :=
  k.names _ (by simp [collectionNames])

theorem valueType : Spelled supplied named (h.valueType f) := by
  rw [Holding.valueType]
  split
  · exact k.content.writtenBoxed
  · exact k.content.written

theorem ofElements {className : String} (hClass : named className) :
    Spelled supplied named (h.ofElements f className) := by
  rw [Holding.ofElements]
  split
  · exact (((Spelled.className hClass).followed _ (by decide)).append k.valueType).followed _
      (by decide)
  · exact .className hClass

theorem typedResult {className : String} (hClass : named className) :
    Spelled supplied named (Collection.typedResult h f className) := by
  rw [Collection.typedResult]
  split
  · exact (((Spelled.className hClass).followed _ (by decide)).append k.valueType).followed _
      (by decide)
  · exact .className hClass

theorem emptyValue : Spelled supplied named (h.emptyValue f) := by
  rw [Holding.emptyValue]
  split
  · rename_i className hCreated
    exact .enclosed (by decide) (k.ofElements (k.createdClass hCreated)) (by decide)
  · exact .supplied k.factory

theorem member : Spelled supplied named (h.layout f).member :=
  .append (.plain (by decide)) k.name

theorem arrayType : Spelled supplied named (h.layout f).arrayType :=
  .append k.valueType (.plain (by decide))

omit k in
theorem toElement (h : Holding) (f : BoundField) {expr : String}
    (hExpr : Spelled supplied named expr) :
    Spelled supplied named ((h.layout f).toElement expr) := by
  rw [Layout.toElement]
  split
  · exact hExpr
  · exact ContentKind.spelled_toObject hExpr

theorem fromElement {expr : String} (hExpr : Spelled supplied named expr) :
    Spelled supplied named ((h.layout f).fromElement expr) := by
  rw [Layout.fromElement]
  split
  · exact hExpr
  · exact k.content.fromObject hExpr

theorem noticeIfBound : Spells supplied named (Collection.noticeIfBound f) :=
  k.callIfBound (.plain (by decide))

theorem sizeGuard {methodName : String} (hMethod : Spelled supplied named methodName) :
    Spells supplied named (Collection.sizeGuard f methodName) := by
  have hName := k.name
  have hMax : Spelled supplied named (toString f.maxSize) :=
    .supplied (k.texts _ (by simp [BoundField.texts]))
  rw [Collection.sizeGuard]
  split
  · exact spells_nil
  · simp only [spells_cons, spells_nil, text_line, text_indented, and_true]
    and_intros
    all_goals repeat' with_reducible apply Spelled.append
    all_goals first | assumption | exact .plain (by decide)

/-- The text that throws on a bad index: its literal is cut where it ends. -/
theorem thrown {verb : String} (hVerb : '"' ∉ verb.toList) :
    Spelled supplied named ("throw new " ++ Collection.outOfBounds ++ "(\"" ++ (verb ++ f.suffix) ++
      ": Index value '\" + index + \"' not in range [0..\" + (" ++ (h.layout f).member ++
        ".size() - 1) + \"]\");") := by
  have hSuffix : supplied f.suffix := k.texts _ (by simp [BoundField.texts])
  have hMessage : Spelled supplied named ("\"" ++ verb ++ f.suffix ++ ": Index value '" ++ "\"") :=
    .message hVerb hSuffix (by decide)
  have hOpens : "throw new " ++ Collection.outOfBounds ++ "(\"" =
      "throw new IndexOutOfBoundsException(" ++ "\"" := by
    decide +kernel
  have hCloses : ": Index value '\" + index + \"' not in range [0..\" + (" =
      ": Index value '" ++ "\"" ++ " + index + \"' not in range [0..\" + (" := by
    decide +kernel
  have hRegrouped (rest : String) : "throw new IndexOutOfBoundsException(" ++ "\"" ++
      (verb ++ f.suffix) ++ (": Index value '" ++ "\"" ++ rest) =
      "throw new IndexOutOfBoundsException(" ++
        ("\"" ++ verb ++ f.suffix ++ ": Index value '" ++ "\"") ++ rest := by
    simp only [String.append_assoc]
  rw [hOpens, hCloses, hRegrouped]
  exact ((Spelled.enclosed (by decide) hMessage (by decide)).append k.member).followed _ (by decide)

theorem indexGuard {verb : String} (hVerb : '"' ∉ verb.toList) :
    Spells supplied named (Collection.indexGuard (h.layout f) (verb ++ f.suffix)) := by
  have hMember := k.member
  have hThrown := k.thrown hVerb
  simp only [Collection.indexGuard, spells_cons, spells_nil, text_line, text_indented, and_true]
  and_intros
  all_goals first | assumption | repeat' with_reducible apply Spelled.append
  all_goals first | assumption | exact .plain (by decide)

omit k in
theorem outOfBounds : ∀ text ∈ [Collection.outOfBounds], Spelled supplied named text :=
  List.forall_mem_singleton.mpr (.plain (by decide))

theorem oneValue (name : String) :
    ∀ p ∈ [(⟨(h.layout f).valueType, name⟩ : Parameter)], Spelled supplied named p.type :=
  List.forall_mem_singleton.mpr k.valueType

omit k in
theorem position : ∀ p ∈ [(⟨"int", "index"⟩ : Parameter)], Spelled supplied named p.type :=
  List.forall_mem_singleton.mpr (.plain (by decide))

theorem positioned (name : String) :
    ∀ p ∈ [⟨"int", "index"⟩, (⟨(h.layout f).valueType, name⟩ : Parameter)],
      Spelled supplied named p.type :=
  List.forall_mem_cons.mpr ⟨.plain (by decide), k.oneValue name⟩

/-! ### Adding -/

theorem adding : Spelled supplied named ("add" ++ f.suffix) :=
  .append (.plain (by decide)) k.suffix

theorem add : ∀ text ∈ (Collection.add h f).method.codeTexts, Spelled supplied named text := by
  refine MethodDecl.spelled_throwing
    (MethodDecl.spelled_plain (by simp) (k.oneValue _) ?_) outOfBounds
  have hMember := k.member
  have hElement := toElement h f k.parameter
  simp only [spells_append, spells_cons, spells_nil, text_line, and_true]
  refine ⟨⟨k.sizeGuard k.adding, ?_⟩, k.noticeIfBound⟩
  repeat' with_reducible apply Spelled.append
  all_goals first | assumption | exact .plain (by decide)

theorem addAt : ∀ text ∈ (Collection.addAt h f).method.codeTexts, Spelled supplied named text := by
  refine MethodDecl.spelled_throwing
    (MethodDecl.spelled_plain (by simp) (k.positioned _) ?_) outOfBounds
  have hMember := k.member
  have hElement := toElement h f k.parameter
  simp only [spells_append, spells_cons, spells_nil, text_line, and_true]
  refine ⟨⟨k.sizeGuard k.adding, ?_⟩, k.noticeIfBound⟩
  repeat' with_reducible apply Spelled.append
  all_goals first | assumption | exact .plain (by decide)

/-! ### Reading -/

theorem getAt : ∀ text ∈ (Collection.getAt h f).method.codeTexts, Spelled supplied named text := by
  refine MethodDecl.spelled_throwing
    (MethodDecl.spelled_plain (List.forall_mem_singleton.mpr k.valueType) position ?_) outOfBounds
  have hElement := k.fromElement (k.member.append (b := ".get(index)") (.plain (by decide)))
  simp only [spells_append, spells_cons, spells_nil, text_line, and_true]
  refine ⟨k.indexGuard (by decide : '"' ∉ "get".toList), ?_⟩
  repeat' with_reducible apply Spelled.append
  all_goals first | assumption | exact .plain (by decide)

theorem drainLines (hVector : named "java.util.Vector") :
    Spells supplied named (Collection.drainLines h f) := by
  have hType := k.typedResult hVector
  have hMember := k.member
  have hValue : Spelled supplied named (h.layout f).valueType := k.valueType
  have hIterator : ∀ q ∈ ["java.util.Iterator"], named q :=
    List.forall_mem_singleton.mpr k.iterator
  simp only [Collection.drainLines, spells_cons, spells_nil, text_line, text_indented, and_true]
  and_intros
  all_goals try split
  all_goals repeat' with_reducible apply Spelled.append
  all_goals first | assumption | exact .plain (by decide) | exact .fixed hIterator (by decide)

theorem enumerationLines : Spells supplied named (Collection.enumerationLines h f) := by
  have hMember := k.member
  have hOwn : ∀ q ∈ Collection.enumerationImports h.policy, named q := fun q hq =>
    k.names q (List.mem_append_right _ hq)
  cases hPolicy : h.policy with
  | externalStoreBacked =>
    rw [hPolicy] at hOwn
    simp only [Collection.enumerationLines, hPolicy]
    exact k.drainLines (hOwn _ List.mem_cons_self)
  | _ =>
    rw [hPolicy] at hOwn
    simp only [Collection.enumerationLines, hPolicy, spells_cons, spells_nil, text_line, and_true]
    repeat' with_reducible apply Spelled.append
    all_goals first | assumption | exact .fixed hOwn (by decide)

theorem enumerate : ∀ text ∈ (Collection.enumerate h f).method.codeTexts,
    Spelled supplied named text :=
  MethodDecl.spelled_plain (List.forall_mem_singleton.mpr (k.typedResult k.enumeration)) (by simp)
    k.enumerationLines

theorem iterate : ∀ text ∈ (Collection.iterate h f).method.codeTexts,
    Spelled supplied named text :=
  MethodDecl.spelled_reading (k.typedResult k.iterator) (.enclosed (by decide) k.member (by decide))

theorem arrayLines : Spells supplied named (Collection.arrayLines (h.layout f)) := by
  have hMember := k.member
  have hArray := k.arrayType
  have hValue : Spelled supplied named (h.layout f).valueType := k.valueType
  have hElement : Spelled supplied named ((h.layout f).element.fromObject "iter.next()") :=
    k.content.fromObject (.plain (by decide))
  have hIterator : ∀ q ∈ ["java.util.Iterator"], named q :=
    List.forall_mem_singleton.mpr k.iterator
  rw [Collection.arrayLines]
  split
  all_goals
    simp only [spells_cons, spells_nil, text_line, text_indented, and_true]
    and_intros
  all_goals repeat' with_reducible apply Spelled.append
  all_goals first | assumption | exact .plain (by decide) | exact .fixed hIterator (by decide)

theorem getArray {markers : List String}
    (hMarkers : ∀ text ∈ markers, Spelled supplied named text) :
    ∀ text ∈ (Collection.getArray h markers f).method.codeTexts, Spelled supplied named text := by
  refine MethodDecl.spelled_marked (MethodDecl.spelled_plain ?_ (by simp) k.arrayLines) hMarkers
  exact List.forall_mem_singleton.mpr k.arrayType

theorem getCount : ∀ text ∈ (Collection.getCount f).method.codeTexts,
    Spelled supplied named text :=
  MethodDecl.spelled_reading (.plain (by decide)) (.enclosed (by decide) k.name (by decide))

/-! ### Removing -/

theorem removeAll : ∀ text ∈ (Collection.removeAll f).method.codeTexts,
    Spelled supplied named text := by
  refine MethodDecl.spelled_plain (by simp) (by simp) ?_
  rw [spells_cons, text_line]
  exact ⟨.enclosed (by decide) k.name (by decide), k.noticeIfBound⟩

theorem remove : ∀ text ∈ (Collection.remove h f).method.codeTexts,
    Spelled supplied named text := by
  refine MethodDecl.spelled_plain (List.forall_mem_singleton.mpr (.plain (by decide)))
    (k.oneValue _) ?_
  have hMember := k.member
  have hElement := toElement h f k.parameter
  simp only [spells_append, spells_cons, spells_nil, text_line, and_true]
  refine ⟨⟨?_, k.noticeIfBound⟩, .plain (by decide)⟩
  repeat' with_reducible apply Spelled.append
  all_goals first | assumption | exact .plain (by decide)

theorem removeAt : ∀ text ∈ (Collection.removeAt h f).method.codeTexts,
    Spelled supplied named text := by
  refine MethodDecl.spelled_plain (List.forall_mem_singleton.mpr k.valueType) position ?_
  have hMember := k.member
  have hValue : Spelled supplied named (h.layout f).valueType := k.valueType
  have hObject : Spelled supplied named "obj" := .plain (by decide)
  have hElement := k.fromElement hObject
  simp only [spells_append, spells_cons, spells_nil, text_line, and_true]
  refine ⟨⟨?_, k.noticeIfBound⟩, ?_⟩
  all_goals try split
  all_goals repeat' with_reducible apply Spelled.append
  all_goals first | assumption | exact .plain (by decide)

/-! ### Replacing -/

theorem setAt : ∀ text ∈ (Collection.setAt h f).method.codeTexts, Spelled supplied named text := by
  refine MethodDecl.spelled_throwing
    (MethodDecl.spelled_plain (by simp) (k.positioned _) ?_) outOfBounds
  have hMember := k.member
  have hElement := toElement h f k.parameter
  simp only [spells_append, spells_cons, spells_nil, text_line, and_true]
  refine ⟨⟨k.indexGuard (by decide : '"' ∉ "set".toList), .plain (by decide), ?_⟩, k.noticeIfBound⟩
  repeat' with_reducible apply Spelled.append
  all_goals first | assumption | exact .plain (by decide)

theorem setArray : ∀ text ∈ (Collection.setArray h f).method.codeTexts,
    Spelled supplied named text := by
  refine MethodDecl.spelled_plain (by simp) (List.forall_mem_singleton.mpr k.arrayType) ?_
  have hMember := k.member
  have hArray : Spelled supplied named (f.parameter ++ "Array") :=
    .supplied (k.texts _ (by simp [BoundField.texts]))
  have hElement := toElement h f (hArray.append (b := "[i]") (.plain (by decide)))
  simp only [spells_append, spells_cons, spells_nil, text_line, text_indented, and_true]
  refine ⟨?_, k.noticeIfBound⟩
  and_intros
  all_goals repeat' first | assumption | with_reducible apply Spelled.append
  all_goals first | assumption | exact .plain (by decide)

/-! ### The collection itself -/

theorem memberType : Spelled supplied named (h.layout f).memberType :=
  k.ofElements k.memberClass

theorem getReference : ∀ text ∈ (Collection.getReference h f).method.codeTexts,
    Spelled supplied named text :=
  MethodDecl.spelled_reading k.memberType (.enclosed (by decide) k.member (by decide))

theorem setCopy : ∀ text ∈ (Collection.setCopy h f).method.codeTexts,
    Spelled supplied named text := by
  refine MethodDecl.spelled_plain (by simp) (List.forall_mem_singleton.mpr k.memberType) ?_
  have hMember := k.member
  have hOther : Spelled supplied named (f.parameter ++ "List") :=
    .supplied (k.texts _ (by simp [BoundField.texts]))
  simp only [spells_append, spells_cons, spells_nil, text_line, and_true]
  refine ⟨?_, k.noticeIfBound⟩
  and_intros
  all_goals repeat' first | assumption | with_reducible apply Spelled.append
  all_goals first | assumption | exact .plain (by decide)

theorem setReference : ∀ text ∈ (Collection.setReference h f).method.codeTexts,
    Spelled supplied named text := by
  refine MethodDecl.spelled_plain (by simp) (List.forall_mem_singleton.mpr k.memberType) ?_
  have hOther : Spelled supplied named (f.property ++ "Collection") :=
    .supplied (k.texts _ (by simp [BoundField.texts]))
  rw [spells_cons, text_line]
  exact ⟨((k.member.followed _ (by decide)).append hOther).followed _ (by decide),
    k.noticeIfBound⟩

/-! ### All of it -/

theorem collectionMember : ∀ text ∈ (Collection.member h f).codeTexts,
    Spelled supplied named text := by
  simpa [Collection.member, FieldDecl.plain, FieldDecl.codeTexts] using k.memberType

theorem collectionInitialLines : Spells supplied named (Collection.initialLines h f) := by
  have hCreate : Spelled supplied named
      ((h.layout f).member ++ " = " ++ (h.layout f).emptyValue ++ ";") :=
    ((k.member.followed _ (by decide)).append k.emptyValue).followed _ (by decide)
  simp only [Collection.initialLines]
  split
  · simpa using hCreate
  · rename_i value hDefault
    have hElement := toElement h f (k.default hDefault)
    simp only [spells_cons, spells_nil, text_line, and_true]
    exact ⟨hCreate, ((k.member.followed _ (by decide)).append hElement).followed _ (by decide)⟩

/-- The accessors of a collection name only the classes that the collection asks for. -/
theorem collectionMethod {markers : List String} (hMarkers : ∀ text ∈ markers, supplied text)
    (hMany : f.isCollection = true) {a : Form} (hA : a.isCalledFor h f = true) :
    ∀ text ∈ (a.method h markers f).codeTexts, Spelled supplied named text := by
  cases a with
  | add => exact k.add
  | addAt => exact k.addAt
  | enumerate => exact k.enumerate
  | iterate => exact k.iterate
  | getAt => exact k.getAt
  | getArray => exact k.getArray fun text hText => .supplied (hMarkers text hText)
  | getCount => exact k.getCount
  | removeAll => exact k.removeAll
  | remove => exact k.remove
  | removeAt => exact k.removeAt
  | setAt => exact k.setAt
  | setArray => exact k.setArray
  | getReference => exact k.getReference
  | setCopy => exact k.setCopy
  | setReference => exact k.setReference
  | _ => simp [Form.isCalledFor, hMany] at hA

end KnownCollection

end Accessor

end BeanGen
