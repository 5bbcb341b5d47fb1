import BeanGen.Proofs.Accessor.Body
import BeanGen.Proofs.Accessor.Leaving
import BeanGen.Proofs.Generation.BoundClass
import BeanGen.Proofs.Java.Name
import BeanGen.Proofs.Schema.Validity
import BeanGen.Proofs.Text.Affix

/-!
# Notices of accessors

Ten of the forms of accessors change the member of their field. If the field is bound, each of these
tells the listeners once, after the change and before it returns. Nothing else tells them.
-/

namespace BeanGen.Accessor

open Java Text

/-- The expression of the member of a field. -/
def memberText (f : BoundField) : String :=
  "this." ++ f.name

/-- A call that tells the listeners of the property that the member has a new value. -/
def IsNotice (f : BoundField) (text : String) : Prop :=
  ∃ former, text = ChangeNotice.notifyMethod ++ "(\"" ++ f.property ++ "\", " ++ former ++ ", " ++
    memberText f ++ ");"

/-- How calls that change a collection go on after the member. -/
def changingCalls : List String :=
  [".add(", ".addAll(", ".set(", ".remove(", ".clear("]

/-- The line changes the member of the field: it assigns it, calls a method on it that changes a
collection, or keeps what it takes out of it. -/
inductive Changes (f : BoundField) (text : String) : Prop
  | assignment (hStarts : StartsWith (memberText f ++ " = ") text)
  | call {method : String} (hMethod : method ∈ changingCalls)
      (hStarts : StartsWith (memberText f ++ method) text)
  | removal (hStarts : StartsWith ("boolean removed = " ++ memberText f ++ ".remove(") text)
  | removalAt (hEnds : EndsWith (" obj = " ++ memberText f ++ ".remove(index);") text)

/-- The line leaves the method, with a value or without one. It starts with the word `return`, but
for the line of a change, which starts with a type that may be called anything. Or it has the word
further on, as behind a condition, and from no text that the field supplies. -/
inductive Returns (f : BoundField) (text : String) : Prop
  | first (hWord : ∃ rest, text = "return" ++ rest ∧ rest.toList.head?.any isWordChar = false)
      (hUnchanged : ¬ Changes f text)
  | within (hWord : StandsIn "return" text)
      (hOwn : ∀ given ∈ lineTexts f, StandsIn "return" given → ¬ StandsIn given text)

/-- The line neither tells the listeners nor leaves the method. -/
structure GoesOn (f : BoundField) (text : String) : Prop where
  untold : ¬ IsNotice f text
  unreturned : ¬ Returns f text

/-- The line neither tells the listeners nor changes the member. -/
structure Quiet (f : BoundField) (text : String) : Prop where
  untold : ¬ IsNotice f text
  unchanged : ¬ Changes f text

/-- The lines tell the listeners once, after all that changes the member and before they return. -/
def TellsOnce (f : BoundField) (ls : List Line) : Prop :=
  ∃ before notice after, ls = before ++ notice :: after ∧ IsNotice f notice.text ∧
    (∃ l ∈ before, Changes f l.text) ∧ (∀ l ∈ before, GoesOn f l.text) ∧
    ∀ l ∈ after, Quiet f l.text

/-- The forms that change the member of their field. -/
def Form.changes : Form → Bool
  | setter | add | addAt | removeAll | remove | removeAt | setAt | setArray | setCopy
  | setReference => true
  | _ => false

/-- What the lines of a method tell the listeners, if they change the member as told. -/
structure Tells (f : BoundField) (changes : Bool) (ls : List Line) : Prop where
  changing : (∃ l ∈ ls, Changes f l.text) ↔ changes = true
  once : f.bound = true → changes = true → TellsOnce f ls
  never : f.bound = false ∨ changes = false → ∀ l ∈ ls, ¬ IsNotice f l.text

/-- The writer of a field keeps the former value, then assigns the new one, and ends by telling the
listeners both. -/
def KeepsFormer (f : BoundField) : Prop :=
  ∃ between, (Scalar.setter f).method.body.lines =
    [line ("Object " ++ Scalar.formerName f ++ " = " ++ f.valueType.toObject (memberText f) ++ ";"),
      line (memberText f ++ " = " ++ f.property ++ ";")] ++ between ++
    [line (ChangeNotice.notifyMethod ++ "(\"" ++ f.property ++ "\", " ++ Scalar.formerName f ++
      ", " ++ memberText f ++ ");")]

/-! ## Lines that tell and change nothing -/

section Quiet

variable {f : BoundField} {text a x : String} {ls : List Line}

theorem IsNotice.startsWith (h : IsNotice f text) : StartsWith "notify" text := by
  obtain ⟨former, rfl⟩ := h
  have hMethod : StartsWith "notify" ChangeNotice.notifyMethod := by decide
  exact (((((hMethod.append _).append _).append _).append _).append _).append _ |>.append _

theorem IsNotice.endsWith (h : IsNotice f text) : EndsWith (memberText f ++ ");") text := by
  obtain ⟨former, rfl⟩ := h
  rw [String.append_assoc]
  exact endsWith_append_self _ _

theorem Changes.affixes (h : Changes f text) :
    StartsWith "this." text ∨ StartsWith "boolean removed = " text ∨
      EndsWith (memberText f ++ ".remove(index);") text := by
  cases h with
  | assignment hStarts => exact .inl hStarts.of_append.of_append
  | call hMethod hStarts => exact .inl hStarts.of_append.of_append
  | removal hStarts => exact .inr (.inl hStarts.of_append.of_append)
  | removalAt hEnds =>
    rw [String.append_assoc] at hEnds
    exact .inr (.inr hEnds.of_append)

theorem Returns.starts_of_stays (hReturns : Returns f text) (hStays : Stays f text) :
    StartsWith "return" text ∧ ¬ Changes f text := by
  cases hReturns with
  | first hWord hUnchanged =>
    obtain ⟨rest, rfl, -⟩ := hWord
    exact ⟨startsWith_self_append _ _, hUnchanged⟩
  | within hWord hOwn =>
    obtain ⟨given, hGiven, hHas, hStands⟩ := hStays hWord
    exact absurd hStands (hOwn given hGiven hHas)

/-- How notices and changes start, but for those that start with a type. -/
def eventHeads : List String :=
  ["notify", "this.", "boolean removed = "]

/-- How notices start and lines that leave the method. -/
def stopHeads : List String :=
  ["notify", "return"]

theorem Quiet.of_heads (hHeads : StartsWithNone eventHeads text)
    (hTail : ¬ EndsWith (memberText f ++ ".remove(index);") text) : Quiet f text where
  untold hNotice := hHeads _ (by decide) hNotice.startsWith
  unchanged hChanges := by
    rcases hChanges.affixes with hThis | hRemoved | hEnds
    · exact hHeads _ (by decide) hThis
    · exact hHeads _ (by decide) hRemoved
    · exact hTail hEnds

example : Returns f "return;" := by
  have hQuiet : Quiet f "return;" :=
    .of_heads (by decide) fun hEnds => absurd hEnds.of_append (by decide)
  exact .first ⟨";", rfl, by decide⟩ hQuiet.unchanged

example : Returns (.single "_total" .int "Total") "if (this._total == total) return;" :=
  .within (by decide) (by decide)

theorem quiet_of_affixes (hHeads : ∀ l ∈ ls, StartsWithNone eventHeads l.text)
    (hTails : ∀ l ∈ ls, ¬ EndsWith ".remove(index);" l.text) : ∀ l ∈ ls, Quiet f l.text :=
  fun l hLine => .of_heads (hHeads l hLine) fun hEnds => hTails l hLine hEnds.of_append

theorem Quiet.between {b : String} (hHeads : PartsAtStart eventHeads a)
    (hTail : PartAtEnd ".remove(index);" b) : Quiet f (a ++ x ++ b) := by
  refine .of_heads ?_ fun hEnds => not_endsWith_append (a ++ x) hTail hEnds.of_append
  rw [String.append_assoc]
  exact startsWithNone_append hHeads _

theorem point_mem_memberText (f : BoundField) : '.' ∈ (memberText f).toList := by
  simp [memberText]

theorem IsNotice.point_mem (h : IsNotice f text) : '.' ∈ text.toList := by
  obtain ⟨former, rfl⟩ := h
  simp [point_mem_memberText]

theorem Changes.point_mem (h : Changes f text) : '.' ∈ text.toList := by
  have hMember := point_mem_memberText f
  cases h with
  | assignment hStarts => exact hStarts.subset (by simp [hMember])
  | call hMethod hStarts => exact hStarts.subset (by simp [hMember])
  | removal hStarts => exact hStarts.subset (by simp [hMember])
  | removalAt hEnds => exact hEnds.subset (by simp [hMember])

theorem Quiet.of_free (hFree : '.' ∉ text.toList) : Quiet f text where
  untold hNotice := hFree hNotice.point_mem
  unchanged hChanges := hFree hChanges.point_mem

theorem toList_memberText (f : BoundField) :
    (memberText f).toList = 't' :: ("his." ++ f.name).toList := by
  simp [memberText]

/-- A reader ends with the member, but the method that takes a value out of it has a name after the
member that fits nowhere. -/
theorem Quiet.of_reader (between : String) {tail : String} (hHeads : PartsAtStart eventHeads a)
    (hTail : between ++ tail = ".remove(index);") (hFree : 't' ∉ between.toList)
    (hApart : between ≠ "") : Quiet f (a ++ (memberText f ++ tail)) := by
  refine .of_heads (startsWithNone_append hHeads _) ?_
  rw [← hTail, ← String.append_assoc]
  exact not_endsWith_both (toList_memberText f) hFree hApart (endsWith_append_self _ _)

end Quiet

/-! ## Forms that change nothing -/

section Readers

variable {h : Holding} {markers : List String} {f : BoundField}

theorem member_layout : (h.layout f).member = memberText f :=
  rfl

theorem point_not_mem_valueType : '.' ∉ (h.layout f).valueType.toList := by
  rw [Holding.layout, Holding.valueType]
  split
  · exact point_not_mem_simpleName _
  · exact point_not_mem_simpleName _

theorem quiet_return : Quiet f ("return this." ++ f.name ++ ";") := by
  have hText : "return this." ++ f.name ++ ";" = "return " ++ (memberText f ++ ";") := by
    rw [memberText, String.append_assoc, String.append_assoc]
    rfl
  rw [hText]
  exact .of_reader ".remove(index)" (by decide) rfl (by decide) (by decide)

theorem length_property_le (f : BoundField) :
    f.property.length ≤ f.name.length ∧ f.name.length ≤ f.property.length + 1 := by
  rcases BoundField.eq_or_eq_of_stripUnderscore (rfl : _ = f.property) with hEq | hEq
  · rw [← hEq]
    exact ⟨Nat.le_refl _, Nat.le_add_right _ _⟩
  · have hLength : f.name.length = 1 + f.property.length := by
      rw [hEq, String.length_append]
      rfl
    omega

theorem count_name {c : Char} (hOther : c ≠ '_') (f : BoundField) :
    f.name.toList.count c = f.property.toList.count c := by
  rcases BoundField.eq_or_eq_of_stripUnderscore (rfl : _ = f.property) with hEq | hEq
  · rw [← hEq]
  · have hChars : f.name.toList = '_' :: f.property.toList := by
      rw [hEq, String.toList_append]
      rfl
    rw [hChars, List.count_cons_of_ne hOther.symm]

theorem quiet_returnFlag : Quiet f ("return this." ++ f.flagName ++ ";") := by
  have hHeads : PartsAtStart eventHeads "return this." := by decide
  rw [String.append_assoc]
  refine .of_heads (startsWithNone_append hHeads _) fun hEnds => ?_
  have hLength := hEnds.length_le
  have hName := length_property_le f
  simp only [memberText, BoundField.flagName, String.length_append] at hLength
  have hFixed : "this.".length + ".remove(index);".length > "return this.".length +
      "_has_".length + ";".length := by
    decide
  omega

/-- The flag is another member: its name goes on where that of the field ends. -/
theorem not_startsWith_assignment :
    ¬ StartsWith (memberText f ++ " = ") ("this." ++ f.flagName ++ " = false;") := by
  intro hStarts
  have hFlag : f.name.toList ++ " = ".toList <+:
      "_has_".toList ++ f.property.toList ++ " = false;".toList := by
    simpa only [StartsWith, memberText, BoundField.flagName, String.toList_append,
      List.append_assoc, List.prefix_append_right_inj] using hStarts
  have hName : f.name.toList ++ [' '] <+: f.name.toList ++ " = ".toList :=
    (List.prefix_append_right_inj _).mpr ⟨_, rfl⟩
  have hLength : (f.name.toList ++ [' ']).length ≤
      ("_has_".toList ++ f.property.toList).length := by
    have hNames := length_property_le f
    have hFixed : "_has_".toList.length = 5 ∧ [' '].length = 1 := ⟨rfl, rfl⟩
    simp only [List.length_append, String.length_toList] at hFixed ⊢
    omega
  have hShort := List.prefix_of_prefix_length_le (hName.trans hFlag) (List.prefix_append _ _)
    hLength
  have hCount := hShort.sublist.count_le ' '
  rw [List.count_append, List.count_append, count_name (by decide) f] at hCount
  have hBlank : "_has_".toList.count ' ' = 0 ∧ [' '].count ' ' = 1 := by decide
  omega

theorem not_startsWith_call {method : String} (hMethod : method ∈ changingCalls) :
    ¬ StartsWith (memberText f ++ method) ("this." ++ f.flagName ++ " = false;") := by
  intro hStarts
  have hCount := hStarts.sublist.count_le '('
  simp only [memberText, BoundField.flagName, String.toList_append, List.count_append,
    count_name (show '(' ≠ '_' by decide) f] at hCount
  have hOpen : ∀ method ∈ changingCalls, method.toList.count '(' = 1 := by decide
  have hNone : "_has_".toList.count '(' = 0 ∧ " = false;".toList.count '(' = 0 := by decide
  have := hOpen method hMethod
  omega

theorem quiet_clearFlag : Quiet f ("this." ++ f.flagName ++ " = false;") where
  untold hNotice := by
    have hHead : PartAtStart "notify" "this." := by decide
    exact ((hHead.append _).append _).left hNotice.startsWith
  unchanged hChanges := by
    cases hChanges with
    | assignment hStarts => exact not_startsWith_assignment hStarts
    | call hMethod hStarts => exact not_startsWith_call hMethod hStarts
    | removal hStarts =>
      have hHead : PartAtStart "boolean removed = " "this." := by decide
      exact ((hHead.append _).append _).left hStarts.of_append.of_append
    | removalAt hEnds =>
      have hTail : PartAtEnd ".remove(index);" " = false;" := by decide
      exact not_endsWith_append ("this." ++ f.flagName) hTail hEnds.of_append

theorem quiet_enumeration :
    Quiet f ("return Collections.enumeration(" ++ memberText f ++ ");") := by
  rw [String.append_assoc]
  exact .of_reader ".remove(index" (by decide) rfl (by decide) (by decide)

theorem not_endsWith_fromObject {tail text expr a : String} (t : ValueType)
    (hUnboxed : PartAtEnd tail ("Value()" ++ a)) (hExpr : PartAtEnd tail (expr ++ a)) :
    ¬ EndsWith tail (text ++ t.fromObject expr ++ a) := by
  rw [ValueType.fromObject]
  split
  · exact not_endsWith_inner _ hUnboxed
  · exact not_endsWith_inner _ hExpr

theorem not_endsWith_fromElement {tail text expr a : String} (l : Layout)
    (hUnboxed : PartAtEnd tail ("Value()" ++ a)) (hExpr : PartAtEnd tail (expr ++ a)) :
    ¬ EndsWith tail (text ++ l.fromElement expr ++ a) := by
  rw [Layout.fromElement]
  split
  · rw [String.append_assoc]
    exact not_endsWith_append _ hExpr
  · exact not_endsWith_fromObject _ hUnboxed hExpr

theorem startsWithNone_indexGuard {methodName : String} :
    ∀ l ∈ Collection.indexGuard (h.layout f) methodName,
      StartsWithNone (eventHeads ++ stopHeads) l.text := by
  simp (disch := decide) only [Collection.indexGuard, line, indented, List.forall_mem_cons,
    String.append_assoc, startsWithNone_append, true_and]
  simp only [List.not_mem_nil, IsEmpty.forall_iff, implies_true, and_true]
  decide

theorem quiet_indexGuard {methodName : String} :
    ∀ l ∈ Collection.indexGuard (h.layout f) methodName, Quiet f l.text := by
  refine quiet_of_affixes (fun l hLine head hHead => ?_) ?_
  · exact startsWithNone_indexGuard l hLine head (List.mem_append_left _ hHead)
  · simp (disch := decide) only [Collection.indexGuard, line, indented, List.forall_mem_cons,
      not_endsWith_append, not_false_eq_true, true_and]
    simp only [List.not_mem_nil, IsEmpty.forall_iff, implies_true, and_true]
    decide

theorem exists_vector_eq (h : Holding) (f : BoundField) :
    ∃ rest, Collection.typedResult h f "java.util.Vector" = "Vector" ++ rest := by
  have hSimple : simpleName "java.util.Vector" = "Vector" := by decide
  rw [Collection.typedResult, hSimple]
  split
  · exact ⟨_, (String.append_assoc ..).trans (String.append_assoc ..)⟩
  · exact ⟨"", (String.append_empty ..).symm⟩

theorem quiet_drainLines : ∀ l ∈ Collection.drainLines h f, Quiet f l.text := by
  obtain ⟨rest, hVector⟩ := exists_vector_eq h f
  refine quiet_of_affixes ?_ ?_
  · simp (disch := decide) only [Collection.drainLines, hVector, line, indented,
      List.forall_mem_cons, String.append_assoc, startsWithNone_append, true_and]
    simp only [List.not_mem_nil, IsEmpty.forall_iff, implies_true, and_true]
    decide
  · have hNext : ¬ EndsWith ".remove(index);" ("v.add(" ++ (if h.modern = true then
        "(" ++ (h.layout f).valueType ++ ") iterator.next()" else "iterator.next()") ++ ");") := by
      split
      · exact not_endsWith_inner _ (by decide)
      · decide
    simp (disch := decide) only [Collection.drainLines, line, indented, List.forall_mem_cons,
      not_endsWith_append, hNext, not_false_eq_true, true_and]
    simp only [List.not_mem_nil, IsEmpty.forall_iff, implies_true, and_true]
    decide

/-- The line that makes an array starts with the type of its values, but it has no point. -/
theorem quiet_newArray {size : String} (hSize : '.' ∉ size.toList) :
    Quiet f ((h.layout f).arrayType ++ " array = new " ++ (h.layout f).valueType ++ size) := by
  refine .of_free ?_
  simp only [Layout.arrayType, String.toList_append, List.mem_append, not_or]
  exact ⟨⟨⟨⟨point_not_mem_valueType, by decide⟩, by decide⟩, point_not_mem_valueType⟩, hSize⟩

theorem quiet_arrayLines : ∀ l ∈ Collection.arrayLines (h.layout f), Quiet f l.text := by
  rw [Collection.arrayLines]
  split
  · refine List.forall_mem_cons.mpr ⟨quiet_newArray (by decide), quiet_of_affixes ?_ ?_⟩
    · simp (disch := decide) only [line, List.forall_mem_cons, String.append_assoc,
        startsWithNone_append, true_and]
      simp only [List.not_mem_nil, IsEmpty.forall_iff, implies_true]
    · simp (disch := decide) only [line, List.forall_mem_cons, not_endsWith_append,
        not_false_eq_true, true_and]
      simp only [List.not_mem_nil, IsEmpty.forall_iff, implies_true]
  · have hSize : Quiet f ("int size = " ++ memberText f ++ ".size();") :=
      .between (by decide) (by decide)
    refine List.forall_mem_cons.mpr ⟨hSize, List.forall_mem_cons.mpr
      ⟨quiet_newArray (by decide), quiet_of_affixes ?_ ?_⟩⟩
    · simp (disch := decide) only [line, indented, List.forall_mem_cons, String.append_assoc,
        startsWithNone_append, true_and]
      simp only [List.not_mem_nil, IsEmpty.forall_iff, implies_true, and_true]
      decide
    · simp (disch := decide) only [line, indented, List.forall_mem_cons, not_endsWith_append,
        not_endsWith_fromObject, not_false_eq_true, true_and]
      simp only [List.not_mem_nil, IsEmpty.forall_iff, implies_true, and_true]
      decide

theorem quiet_enumerationLines : ∀ l ∈ Collection.enumerationLines h f, Quiet f l.text := by
  rw [Collection.enumerationLines]
  cases h.policy with
  | legacyIndexed => exact List.forall_mem_singleton.mpr (.between (by decide) (by decide))
  | externalStoreBacked => exact quiet_drainLines
  | _ => exact List.forall_mem_singleton.mpr quiet_enumeration

theorem quiet_getAt : ∀ l ∈ (Form.getAt.method h markers f).body.lines, Quiet f l.text := by
  refine List.forall_mem_append.mpr ⟨quiet_indexGuard, List.forall_mem_singleton.mpr ?_⟩
  have hHeads : PartsAtStart eventHeads "return " := by decide
  refine .of_heads ?_ fun hEnds => ?_
  · simp only [line, String.append_assoc]
    exact startsWithNone_append hHeads _
  · refine not_endsWith_fromElement _ (by decide) ?_ hEnds.of_append
    rw [String.append_assoc]
    exact .append _ (by decide)

theorem quiet_of_not_changes {a : Form} (hForm : a.changes = false) :
    ∀ l ∈ (a.method h markers f).body.lines, Quiet f l.text := by
  cases a with
  | getter => exact List.forall_mem_singleton.mpr quiet_return
  | predicate => exact List.forall_mem_singleton.mpr quiet_return
  | hasValue => exact List.forall_mem_singleton.mpr quiet_returnFlag
  | deletion => exact List.forall_mem_singleton.mpr quiet_clearFlag
  | enumerate => exact quiet_enumerationLines
  | iterate => exact List.forall_mem_singleton.mpr (.between (by decide) (by decide))
  | getAt => exact quiet_getAt
  | getArray => exact quiet_arrayLines
  | getCount => exact List.forall_mem_singleton.mpr (.between (by decide) (by decide))
  | getReference => exact List.forall_mem_singleton.mpr quiet_return
  | _ => cases hForm

end Readers

/-! ## Forms that change the member -/

section Writers

variable {h : Holding} {markers : List String} {f : BoundField} {former : String}
  {before after ls : List Line}

theorem GoesOn.of_heads {text : String} (hHeads : StartsWithNone stopHeads text)
    (hStays : Stays f text) : GoesOn f text where
  untold hNotice := hHeads _ (by decide) hNotice.startsWith
  unreturned hReturns := hHeads _ (by decide) (hReturns.starts_of_stays hStays).1

theorem goesOn_of_heads (hHeads : ∀ l ∈ ls, StartsWithNone stopHeads l.text)
    (hStays : ∀ l ∈ ls, Stays f l.text) : ∀ l ∈ ls, GoesOn f l.text :=
  fun l hLine => .of_heads (hHeads l hLine) (hStays l hLine)

/-- A method that changes the member first, tells the listeners then if the field is bound, and ends
with lines that do neither. -/
theorem tells_of_change (hChange : ∃ l ∈ before, Changes f l.text)
    (hBefore : ∀ l ∈ before, GoesOn f l.text)
    (hAfter : ∀ l ∈ after, Quiet f l.text) :
    Tells f true (before ++ ChangeNotice.callIfBound f former ++ after) where
  changing := by
    obtain ⟨l, hLine, hChanges⟩ := hChange
    exact iff_of_true ⟨l, List.mem_append_left _ (List.mem_append_left _ hLine), hChanges⟩ rfl
  once hBound _ := by
    have hLines : before ++ ChangeNotice.callIfBound f former ++ after =
        (before ++ [line "", line "// notify listeners"]) ++ line (ChangeNotice.notifyMethod ++
          "(\"" ++ f.property ++ "\", " ++ former ++ ", this." ++ f.name ++ ");") :: after := by
      simp [ChangeNotice.callIfBound, hBound, ChangeNotice.call]
    refine ⟨_, _, after, hLines, ⟨former, ?_⟩, ?_, ?_, fun l hLine => ?_⟩
    · simp [line, memberText, ← String.toList_inj]
    · obtain ⟨l, hLine, hChanges⟩ := hChange
      exact ⟨l, List.mem_append_left _ hLine, hChanges⟩
    · exact List.forall_mem_append.mpr ⟨hBefore, goesOn_of_heads (by decide) stays_separator⟩
    · exact hAfter l hLine
  never hEither := by
    rcases hEither with hFree | hNone
    · rw [ChangeNotice.callIfBound, hFree, if_neg Bool.false_ne_true, List.append_nil]
      refine List.forall_mem_append.mpr ⟨fun l hLine => (hBefore l hLine).untold, ?_⟩
      exact fun l hLine => (hAfter l hLine).untold
    · cases hNone

theorem tells_of_quiet (hQuiet : ∀ l ∈ ls, Quiet f l.text) : Tells f false ls where
  changing := iff_of_false (fun ⟨l, hLine, hChanges⟩ => (hQuiet l hLine).unchanged hChanges)
    Bool.false_ne_true
  once _ hChanges := by cases hChanges
  never _ l hLine := (hQuiet l hLine).untold

theorem tells_of_last_change (hChange : ∃ l ∈ before, Changes f l.text)
    (hBefore : ∀ l ∈ before, GoesOn f l.text) :
    Tells f true (before ++ ChangeNotice.callIfBound f former) := by
  rw [← List.append_nil (before ++ _)]
  exact tells_of_change hChange hBefore (List.forall_mem_nil _)

theorem goesOn_sizeGuard {methodName : String} (hMethod : Stays f methodName) :
    ∀ l ∈ Collection.sizeGuard f methodName, GoesOn f l.text := by
  refine goesOn_of_heads ?_ (stays_sizeGuard hMethod)
  rw [Collection.sizeGuard]
  split
  · exact List.forall_mem_nil _
  · simp (disch := decide) only [line, indented, List.forall_mem_cons, String.append_assoc,
      startsWithNone_append, true_and]
    simp only [List.not_mem_nil, IsEmpty.forall_iff, implies_true, and_true]
    decide

theorem goesOn_indexGuard {methodName : String} (hMethod : Stays f methodName) :
    ∀ l ∈ Collection.indexGuard (h.layout f) methodName, GoesOn f l.text := by
  refine goesOn_of_heads (fun l hLine head hHead => ?_) (stays_indexGuard hMethod)
  exact startsWithNone_indexGuard l hLine head (List.mem_append_right _ hHead)

theorem goesOn_optional {c : Prop} [Decidable c] {l : Line} (hLine : GoesOn f l.text) :
    ∀ m ∈ if c then [l] else [], GoesOn f m.text := by
  split
  · exact List.forall_mem_singleton.mpr hLine
  · exact List.forall_mem_nil _

/-- Behind lines that go on, the one line that changes the member starts with it. -/
theorem tells_of_member {text : String}
    (hBefore : ∀ l ∈ before, GoesOn f l.text) (hChange : Changes f text)
    (hStarts : StartsWith (memberText f) text) (hStays : Stays f text) :
    Tells f true (before ++ [line text] ++ ChangeNotice.callIfBound f former) := by
  refine tells_of_last_change ⟨line text, ?_, hChange⟩ ?_
  · exact List.mem_append_right _ List.mem_cons_self
  · refine List.forall_mem_append.mpr ⟨hBefore, List.forall_mem_singleton.mpr ?_⟩
    exact .of_heads (hStarts.of_append.startsWithNone (by decide)) hStays

theorem tells_of_call {method text : String} (hMethod : method ∈ changingCalls)
    (hBefore : ∀ l ∈ before, GoesOn f l.text)
    (hStarts : StartsWith (memberText f ++ method) text) (hStays : Stays f text) :
    Tells f true (before ++ [line text] ++ ChangeNotice.callIfBound f former) :=
  tells_of_member hBefore (.call hMethod hStarts) hStarts.of_append hStays

theorem tells_setter : Tells f true (Scalar.setterLines f) := by
  refine tells_of_last_change ⟨line ("this." ++ f.name ++ " = " ++ f.property ++ ";"), ?_, ?_⟩ ?_
  · exact List.mem_append_left _ (List.mem_append_right _ List.mem_cons_self)
  · exact .assignment ((startsWith_self_append _ _).append _)
  · refine List.forall_mem_append.mpr ⟨List.forall_mem_append.mpr
      ⟨goesOn_optional (.of_heads ?_ stays_keepingLine),
        List.forall_mem_singleton.mpr (.of_heads ?_ stays_assignment)⟩,
      goesOn_optional (.of_heads ?_ stays_markingLine)⟩
    all_goals
      simp only [line, String.append_assoc]
      exact startsWithNone_append (by decide) _

theorem tells_add : Tells f true (Form.add.method h markers f).body.lines :=
  tells_of_call (by decide : ".add(" ∈ changingCalls) (goesOn_sizeGuard stays_adder)
    ((startsWith_self_append _ _).append _) (stays_call (by decide))

theorem tells_addAt : Tells f true (Form.addAt.method h markers f).body.lines := by
  have hCall : StartsWith ".add(" ".add(index, " := by decide
  exact tells_of_call (by decide : ".add(" ∈ changingCalls) (goesOn_sizeGuard stays_adder)
    (((hCall.prepend _).append _).append _) (stays_call (by decide))

theorem tells_setAt : Tells f true (Form.setAt.method h markers f).body.lines := by
  have hCall : StartsWith ".set(" ".set(index, " := by decide
  have hBefore : ∀ l ∈ Collection.indexGuard (h.layout f) f.writeMethod ++ [line ""],
      GoesOn f l.text :=
    List.forall_mem_append.mpr ⟨goesOn_indexGuard stays_writeMethod,
      List.forall_mem_singleton.mpr (.of_heads (by decide) (.fixed (by decide)))⟩
  have hStarts : StartsWith (memberText f ++ ".set(")
      (memberText f ++ ".set(index, " ++ (h.layout f).toElement f.parameter ++ ");") :=
    ((hCall.prepend _).append _).append _
  have hTells : Tells f true (_ ++ [line _] ++ ChangeNotice.callIfBound f "null") :=
    tells_of_call (by decide : ".set(" ∈ changingCalls) hBefore hStarts
      (stays_call (by decide))
  rw [List.append_assoc _ [_] [_]] at hTells
  exact hTells

theorem tells_removeAll : Tells f true (Form.removeAll.method h markers f).body.lines := by
  have hCall : StartsWith ".clear(" ".clear();" := by decide
  exact tells_of_call (by decide : ".clear(" ∈ changingCalls) (List.forall_mem_nil _)
    (hCall.prepend (memberText f)) (.closed stays_member (by decide))

theorem tells_setReference : Tells f true (Form.setReference.method h markers f).body.lines := by
  have hStarts : StartsWith (memberText f ++ " = ")
      (memberText f ++ " = " ++ (f.property ++ "Collection") ++ ";") :=
    (startsWith_self_append _ _).append _
  have hStays : Stays f (memberText f ++ " = " ++ (f.property ++ "Collection") ++ ";") :=
    .closed (.between stays_member (by decide) stays_otherCollection) (by decide)
  exact tells_of_member (List.forall_mem_nil _) (.assignment hStarts) hStarts.of_append hStays

/-- A method that empties the collection first. -/
theorem tells_of_clear {comment : Line} {rest : List Line}
    (hComment : GoesOn f comment.text) (hRest : ∀ l ∈ rest, GoesOn f l.text) :
    Tells f true (comment :: line (memberText f ++ ".clear();") :: rest ++
      ChangeNotice.callIfBound f former) := by
  have hCall : StartsWith ".clear(" ".clear();" := by decide
  have hStarts := hCall.prepend (memberText f)
  have hCleared : GoesOn f (memberText f ++ ".clear();") :=
    .of_heads (hStarts.of_append.of_append.startsWithNone (by decide))
      (.closed stays_member (by decide))
  refine tells_of_last_change ⟨line (memberText f ++ ".clear();"), ?_, ?_⟩ ?_
  · exact List.mem_cons_of_mem _ List.mem_cons_self
  · exact .call (by decide : ".clear(" ∈ changingCalls) hStarts
  · exact List.forall_mem_cons.mpr ⟨hComment, List.forall_mem_cons.mpr ⟨hCleared, hRest⟩⟩

theorem tells_setArray : Tells f true (Form.setArray.method h markers f).body.lines := by
  refine tells_of_clear (.of_heads (by decide) (.fixed (by decide)))
    (goesOn_of_heads ?_ stays_copyLines)
  simp (disch := decide) only [line, indented, member_layout, memberText, List.forall_mem_cons,
    String.append_assoc, startsWithNone_append, true_and]
  simp only [List.not_mem_nil, IsEmpty.forall_iff, implies_true, and_true]
  decide

theorem tells_setCopy : Tells f true (Form.setCopy.method h markers f).body.lines := by
  refine tells_of_clear (.of_heads (by decide) (.fixed (by decide)))
    (goesOn_of_heads ?_ stays_addAllLines)
  simp (disch := decide) only [line, member_layout, memberText, List.forall_mem_cons,
    String.append_assoc, startsWithNone_append, true_and]
  simp only [List.not_mem_nil, IsEmpty.forall_iff, implies_true, and_true]
  decide

theorem tells_remove : Tells f true (Form.remove.method h markers f).body.lines := by
  have hChange : Changes f ("boolean removed = " ++ memberText f ++ ".remove(" ++
      (h.layout f).toElement f.parameter ++ ");") :=
    .removal ((startsWith_self_append _ _).append _)
  have hStays : Stays f ("boolean removed = " ++ memberText f ++ ".remove(" ++
      (h.layout f).toElement f.parameter ++ ");") :=
    .closed (.between (.opened (by decide) stays_member) (by decide)
      (stays_toElement stays_parameter)) (by decide)
  refine tells_of_change ⟨_, List.mem_cons_self, hChange⟩
    (List.forall_mem_singleton.mpr (.of_heads ?_ hStays)) ?_
  · simp only [line, String.append_assoc]
    exact startsWithNone_append (by decide) _
  · exact quiet_of_affixes (by decide) (by decide)

/-- The type of the value may be called anything, but the line ends as no notice does. -/
theorem not_isNotice_removal (type : String) :
    ¬ IsNotice f (type ++ " obj = " ++ memberText f ++ ".remove(index);") := by
  intro hNotice
  have hBetween : 't' ∉ ".remove(index".toList := by decide
  refine not_endsWith_both (toList_memberText f) hBetween (by decide) hNotice.endsWith ?_
  rw [String.append_assoc, String.append_assoc]
  exact endsWith_append_self _ _

theorem tells_removeAt : Tells f true (Form.removeAt.method h markers f).body.lines := by
  have hChange (type : String) :
      Changes f (type ++ " obj = " ++ memberText f ++ ".remove(index);") := by
    refine .removalAt ?_
    simp only [String.append_assoc]
    exact endsWith_append_self _ _
  have hStays {type : String} (hType : Stays f type) :
      Stays f (type ++ " obj = " ++ memberText f ++ ".remove(index);") :=
    .closed (.between hType (by decide) stays_member) (by decide)
  refine tells_of_change ⟨_, List.mem_cons_self, hChange _⟩
    (List.forall_mem_singleton.mpr ⟨not_isNotice_removal _, fun hReturns => ?_⟩)
    (quiet_of_affixes ?_ ?_)
  · exact (hReturns.starts_of_stays (hStays stays_holder)).2 (hChange _)
  · refine List.forall_mem_singleton.mpr ?_
    simp only [line, String.append_assoc]
    exact startsWithNone_append (by decide) _
  · exact List.forall_mem_singleton.mpr (not_endsWith_fromElement _ (by decide) (by decide))

theorem tells_method (a : Form) : Tells f a.changes (a.method h markers f).body.lines := by
  cases a with
  | setter => exact tells_setter
  | add => exact tells_add
  | addAt => exact tells_addAt
  | removeAll => exact tells_removeAll
  | remove => exact tells_remove
  | removeAt => exact tells_removeAt
  | setAt => exact tells_setAt
  | setArray => exact tells_setArray
  | setCopy => exact tells_setCopy
  | setReference => exact tells_setReference
  | _ => exact tells_of_quiet (quiet_of_not_changes rfl)

end Writers

/-! ## What classes are given -/

section Equipment

variable (h : Holding) (markers : List String) (f : BoundField) (c : ClassDecl)

theorem exists_form_of_mem_scalarSuite {e : Emission} (hMem : e ∈ Scalar.suite f) :
    ∃ a, e.method = Form.method h markers f a := by
  simp only [Scalar.suite, List.mem_append] at hMem
  rcases hMem with (hMem | hMem) | hMem
  · rcases List.mem_pair.mp hMem with rfl | rfl
    · exact ⟨.getter, rfl⟩
    · exact ⟨.setter, rfl⟩
  · split at hMem
    · obtain rfl := List.mem_singleton.mp hMem
      exact ⟨.predicate, rfl⟩
    · cases hMem
  · split at hMem
    · rcases List.mem_pair.mp hMem with rfl | rfl
      · exact ⟨.hasValue, rfl⟩
      · exact ⟨.deletion, rfl⟩
    · cases hMem

/-- Every accessor that is called for the field is there, by its signature. -/
def Serves (ms : List MethodDecl) : Prop :=
  ∀ a ∈ Form.ofField h f, ∃ m ∈ ms, m.signature = a.signature h f

/-- What was added to the class is the listeners' own or of a form that tells what it changes. -/
def AddsTelling (ms : List MethodDecl) : Prop :=
  ∀ m ∈ ms, m ∈ c.methods ∨ m ∈ ChangeNotice.methods ∨
    ∃ a, m = Form.method h markers f a ∧ Tells f a.changes m.body.lines

theorem addsTelling_of_forms {es : List Emission}
    (hForms : ∀ e ∈ es, ∃ a, e.method = Form.method h markers f a) :
    AddsTelling h markers f c (ChangeNotice.installIfBound f (c.emitAll es)).methods := by
  intro m hMem
  rw [Generation.methods_installIfBound, ClassDecl.methods_emitAll] at hMem
  rcases mem_of_mem_foldl_adopt hMem with hOwn | hListener
  · rcases mem_of_mem_foldl_adopt hOwn with hOwn | hEmitted
    · exact .inl hOwn
    · obtain ⟨e, hMember, rfl⟩ := List.mem_map.mp hEmitted
      obtain ⟨a, hForm⟩ := hForms e hMember
      exact .inr (.inr ⟨a, hForm, hForm ▸ tells_method a⟩)
  · split at hListener
    · exact .inr (.inl hListener)
    · cases hListener

theorem serves_of_forms {es : List Emission}
    (hForms : es.map (·.method) = (Form.ofField h f).map (Form.method h markers f)) :
    Serves h f (ChangeNotice.installIfBound f (c.emitAll es)).methods := by
  intro a hA
  have hOffered : Form.method h markers f a ∈ es.map (·.method) :=
    hForms ▸ List.mem_map_of_mem hA
  obtain ⟨m, hm, hSignature⟩ := exists_signature_of_offered hOffered
  refine ⟨m, ?_, hSignature.trans (Form.signature_method h markers f a)⟩
  rw [Generation.methods_installIfBound, ClassDecl.methods_emitAll]
  exact subset_foldl_adopt _ _ hm

theorem keepsFormer_of_bound (hBound : f.bound = true) : KeepsFormer f := by
  have hNotice : ChangeNotice.notifyMethod ++ "(\"" ++ f.property ++ "\", " ++
      Scalar.formerName f ++ ", " ++ memberText f ++ ");" =
      ChangeNotice.notifyMethod ++ "(\"" ++ f.property ++ "\", " ++ Scalar.formerName f ++
        ", this." ++ f.name ++ ");" := by
    simp [memberText, ← String.toList_inj]
  rw [KeepsFormer, hNotice]
  refine ⟨(if f.valueType.isPrimitive then [line ("this." ++ f.flagName ++ " = true;")] else []) ++
    [line "", line "// notify listeners"], ?_⟩
  simp [Scalar.setter, Emission.ofMethod, MethodDecl.plain, Block.ofLines, Scalar.setterLines,
    ChangeNotice.callIfBound, ChangeNotice.call, hBound, memberText]

/-- Every method that accessors add to a class, but for those that keep and tell the listeners, is
of one of the forms. If the field is bound, those that change its member tell the listeners once,
after the change and before they return; no other method does, and none if the field is not bound.
-/
theorem accessors_tell_of_changes :
    AddsTelling h markers f c (Scalar.equip f c).methods ∧
      (f.isCollection = false → Serves h f (Scalar.equip f c).methods) ∧
      (f.isCollection = true → ∃ d, Collection.equipChecked h markers f c = .ok d ∧
        AddsTelling h markers f c d.methods ∧ Serves h f d.methods) ∧
      (f.bound = true → KeepsFormer f) := by
  refine ⟨?_, fun hSingle => ?_, fun hMany => ⟨_, if_pos hMany, ?_, ?_⟩, keepsFormer_of_bound f⟩
  · exact addsTelling_of_forms h markers f c fun e hEmitted =>
      exists_form_of_mem_scalarSuite h markers f hEmitted
  · exact serves_of_forms h markers f c (Form.map_scalarSuite h markers hSingle)
  · refine addsTelling_of_forms h markers f c fun e hEmitted => ?_
    have hForms : e.method ∈ (Form.ofField h f).map (Form.method h markers f) := by
      rw [← Form.map_collectionSuite h markers hMany]
      exact List.mem_map_of_mem hEmitted
    obtain ⟨a, -, hForm⟩ := List.mem_map.mp hForms
    exact ⟨a, hForm.symm⟩
  · exact serves_of_forms h markers f c (Form.map_collectionSuite h markers hMany)

end Equipment

end BeanGen.Accessor
