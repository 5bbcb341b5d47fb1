import BeanGen.Proofs.Descriptor.Shape
import BeanGen.Proofs.Generation.Separate
import BeanGen.Proofs.Json.Printing

/-!
# The maximum of a collection

A maximum is found in two places. The methods of the bound class that add a value first check it,
and the validator in the field's block of the descriptor is given it. Both follow the declared
multiplicity, so the two bounds are the same, and no other accessor checks one.
-/

namespace BeanGen.Generation

open Accessor Descriptor Java Text

/-- The field is a collection of at most `m` values. A maximum of zero or below is no bound. -/
def Limited (f : BoundField) (m : Int) : Prop :=
  f.multiplicity = .many m ∧ 0 < m

instance (f : BoundField) (m : Int) : Decidable (Limited f m) :=
  inferInstanceAs (Decidable (_ ∧ _))

def conditionText (f : BoundField) (m : Int) : String :=
  "if (this." ++ f.name ++ ".size() >= " ++ toString m ++ ") \x7b"

def guardLines (f : BoundField) (m : Int) : List Line :=
  [line "// check for the maximum size", line (conditionText f m),
    indented ("throw new IndexOutOfBoundsException(\"" ++ ("add" ++ f.suffix) ++
      " has a maximum of " ++ toString m ++ "\");"),
    line "\x7d"]

/-- The line adds a value to the collection. -/
def Inserts (f : BoundField) (l : Line) : Prop :=
  StartsWith ("this." ++ f.name ++ ".add(") l.text

/-- The lines first check that the collection has room for one more value, and then add it. -/
def Guarded (f : BoundField) (m : Int) (ls : List Line) : Prop :=
  ∃ rest, ls = guardLines f m ++ rest ∧ ∃ l ∈ rest, Inserts f l

section Bound

variable {f : BoundField} {m n : Int}

theorem limited_iff : Limited f m ↔ f.maxSize = m ∧ 0 < m := by
  cases hCount : f.multiplicity with
  | single =>
    rw [Limited, BoundField.maxSize, hCount]
    refine iff_of_false (fun hLimited => nomatch hLimited.1) ?_
    rintro ⟨rfl, hPositive⟩
    exact Int.lt_irrefl 0 hPositive
  | many max => rw [Limited, BoundField.maxSize, hCount, Multiplicity.many.injEq]

theorem toDigits_inj {a b : Nat} (h : Nat.toDigits 10 a = Nat.toDigits 10 b) : a = b := by
  have hValue := congrArg (Nat.ofDigitChars 10 · 0) h
  simpa only [Nat.ofDigitChars_ten_toDigits] using hValue

theorem toDigits_ne_cons_minus (a : Nat) (cs : List Char) : Nat.toDigits 10 a ≠ '-' :: cs := by
  intro hMinus
  have hDigit : '-'.isDigit = true :=
    Nat.isDigit_of_mem_toDigits (by decide) (by decide) (hMinus ▸ List.mem_cons_self)
  exact absurd hDigit (by decide)

theorem toString_inj : toString m = toString n ↔ m = n := by
  refine ⟨fun hText => ?_, congrArg toString⟩
  have hChars := congrArg String.toList hText
  cases m with
  | ofNat a =>
    rw [Json.toList_toString_ofNat] at hChars
    cases n with
    | ofNat b =>
      rw [Json.toList_toString_ofNat] at hChars
      rw [toDigits_inj hChars]
    | negSucc b =>
      rw [Json.toList_toString_negSucc] at hChars
      exact absurd hChars (toDigits_ne_cons_minus a _)
  | negSucc a =>
    rw [Json.toList_toString_negSucc] at hChars
    cases n with
    | ofNat b =>
      rw [Json.toList_toString_ofNat] at hChars
      exact absurd hChars.symm (toDigits_ne_cons_minus b _)
    | negSucc b =>
      rw [Json.toList_toString_negSucc] at hChars
      rw [Nat.succ_inj.mp (toDigits_inj (List.cons_inj_right _ |>.mp hChars))]

theorem conditionText_inj : conditionText f m = conditionText f n ↔ m = n := by
  rw [conditionText, conditionText, String.append_left_inj, String.append_right_inj, toString_inj]

theorem maximumText_inj : Xml.maximumText m = Xml.maximumText n ↔ m = n := by
  refine ⟨fun hText => ?_, congrArg Xml.maximumText⟩
  have hRest : toString m ++ ");" = toString n ++ ");" :=
    (String.append_right_inj "fieldValidator.setMaxOccurs(").mp hText
  rwa [String.append_left_inj, toString_inj] at hRest

end Bound

/-! ## Lines that check no maximum -/

/-- The line is no condition on a size. -/
def Idle (l : Line) : Prop :=
  ¬ (StartsWith "if (this." l.text ∧ EndsWith ") \x7b" l.text)

section Line

variable {f : BoundField} {m : Int} {n : Nat} {a b x y text : String} {l : Line}

theorem Idle.ne_condition (hIdle : Idle l) : l.text ≠ conditionText f m := by
  intro hText
  rw [Idle, hText, conditionText] at hIdle
  exact hIdle
    ⟨.append (.append (.append (startsWith_self_append _ _) _) _) _, endsWith_append_self _ _⟩

theorem idle_fixed (h : ¬ (StartsWith "if (this." text ∧ EndsWith ") \x7b" text)) :
    Idle ⟨n, text⟩ :=
  h

theorem idle_end (h : PartAtEnd ") \x7b" b) : Idle ⟨n, x ++ b⟩ :=
  fun hBoth => not_endsWith_append x h hBoth.2

/-- A condition on something else parts at its start, whatever stands inside it. -/
theorem idle_start (h : PartAtStart "if (this." a) : Idle ⟨n, a ++ x ++ y⟩ := by
  rw [String.append_assoc]
  exact fun hBoth => not_startsWith_append h _ hBoth.1

theorem Inserts.idle (hInserts : Inserts f l) : Idle l := by
  intro hBoth
  have hThis : StartsWith "this." l.text := .of_append (.of_append hInserts)
  rcases List.prefix_or_prefix_of_prefix hThis hBoth.1 with hHead | hHead
  · exact absurd hHead (by decide)
  · exact absurd hHead (by decide)

theorem idle_callIfBound (old : String) : ∀ l ∈ ChangeNotice.callIfBound f old, Idle l := by
  rw [ChangeNotice.callIfBound]
  split
  · simp (disch := decide) only [ChangeNotice.call, line, List.forall_mem_cons, idle_fixed,
      idle_end, List.not_mem_nil, IsEmpty.forall_iff, implies_true, and_true]
  · exact List.forall_mem_nil _

end Line

section Other

variable {h : Holding} {markers : List String} {f : BoundField}

theorem idle_indexGuard (name : String) :
    ∀ l ∈ Collection.indexGuard (h.layout f) name, Idle l := by
  simp (disch := decide) only [Collection.indexGuard, line, indented, List.forall_mem_cons,
    idle_fixed, idle_start, idle_end, List.not_mem_nil, IsEmpty.forall_iff, implies_true, and_true]

theorem idle_enumerationLines : ∀ l ∈ Collection.enumerationLines h f, Idle l := by
  rw [Collection.enumerationLines]
  split <;>
  simp (disch := decide) only [Collection.drainLines, line, indented, List.forall_mem_cons,
    idle_fixed, idle_end, List.not_mem_nil, IsEmpty.forall_iff, implies_true, and_true]

theorem idle_arrayLines (layout : Layout) : ∀ l ∈ Collection.arrayLines layout, Idle l := by
  rw [Collection.arrayLines]
  split <;>
  simp (disch := decide) only [line, indented, List.forall_mem_cons, idle_fixed, idle_end,
    List.not_mem_nil, IsEmpty.forall_iff, implies_true, and_true]

theorem idle_optional {c : Prop} [Decidable c] {l : Line} (hIdle : Idle l) :
    ∀ k ∈ if c then [l] else [], Idle k := by
  split
  · exact List.forall_mem_singleton.mpr hIdle
  · exact List.forall_mem_nil _

theorem idle_setterLines : ∀ l ∈ Scalar.setterLines f, Idle l := by
  simp only [Scalar.setterLines, List.forall_mem_append, List.forall_mem_singleton]
  exact ⟨⟨⟨idle_optional (idle_end (by decide)), idle_end (by decide)⟩,
    idle_optional (idle_end (by decide))⟩, idle_callIfBound _⟩

/-- No accessor but those that add checks a maximum. -/
theorem idle_method {a : Form} (hAdd : a.verb ≠ .add) :
    ∀ l ∈ (a.method h markers f).body.lines, Idle l := by
  cases a with
  | add | addAt => exact absurd rfl hAdd
  | setter => exact idle_setterLines
  | enumerate => exact idle_enumerationLines
  | getAt =>
    exact List.forall_mem_append.mpr
      ⟨idle_indexGuard _, List.forall_mem_singleton.mpr (idle_end (by decide))⟩
  | getArray => exact idle_arrayLines _
  | removeAll => exact List.forall_mem_cons.mpr ⟨idle_end (by decide), idle_callIfBound _⟩
  | setReference => exact List.forall_mem_cons.mpr ⟨idle_end (by decide), idle_callIfBound _⟩
  | remove =>
    simp only [Form.method, Collection.remove, MethodDecl.plain, Block.ofLines,
      List.forall_mem_append, List.forall_mem_singleton]
    exact ⟨⟨idle_end (by decide), idle_callIfBound _⟩, idle_fixed (by decide)⟩
  | removeAt =>
    simp only [Form.method, Collection.removeAt, MethodDecl.plain, Block.ofLines,
      List.forall_mem_append, List.forall_mem_singleton]
    exact ⟨⟨idle_end (by decide), idle_callIfBound _⟩, idle_end (by decide)⟩
  | setAt =>
    simp only [Form.method, Collection.setAt, MethodDecl.plain, Block.ofLines,
      List.forall_mem_append, List.forall_mem_cons]
    exact ⟨⟨idle_indexGuard _, idle_fixed (by decide), idle_end (by decide), List.forall_mem_nil _⟩,
      idle_callIfBound _⟩
  | setArray =>
    simp only [Form.method, Collection.setArray, MethodDecl.plain, Block.ofLines,
      List.forall_mem_append, List.forall_mem_cons]
    exact ⟨⟨idle_fixed (by decide), idle_end (by decide), idle_fixed (by decide),
      idle_start (by decide), idle_end (by decide), idle_fixed (by decide), List.forall_mem_nil _⟩,
      idle_callIfBound _⟩
  | setCopy =>
    simp only [Form.method, Collection.setCopy, MethodDecl.plain, Block.ofLines,
      List.forall_mem_append, List.forall_mem_cons]
    exact ⟨⟨idle_fixed (by decide), idle_end (by decide), idle_fixed (by decide),
      idle_end (by decide), List.forall_mem_nil _⟩, idle_callIfBound _⟩
  | _ => exact List.forall_mem_singleton.mpr (idle_end (by decide))

end Other

/-! ## The methods that add -/

section Adding

variable {h : Holding} {markers : List String} {f : BoundField} {m : Int}

theorem sizeGuard_eq (hPositive : 0 < f.maxSize) :
    Collection.sizeGuard f ("add" ++ f.suffix) = guardLines f f.maxSize ++ [line ""] := by
  rw [Collection.sizeGuard, if_neg (Int.not_le.mpr hPositive)]
  rfl

theorem limited_of_mem_sizeGuard {l : Line} (hLine : l ∈ Collection.sizeGuard f ("add" ++ f.suffix))
    (hText : l.text = conditionText f m) : Limited f m := by
  by_cases hPositive : 0 < f.maxSize
  · have hOther (hIdle : Idle l) : Limited f m := absurd hText hIdle.ne_condition
    rw [sizeGuard_eq hPositive] at hLine
    simp only [guardLines, List.mem_append, List.mem_cons, List.not_mem_nil, or_false] at hLine
    rcases hLine with (rfl | rfl | rfl | rfl) | rfl
    · exact hOther (idle_fixed (by decide))
    · exact limited_iff.mpr ⟨conditionText_inj.mp hText, conditionText_inj.mp hText ▸ hPositive⟩
    · exact hOther (idle_end (by decide))
    · exact hOther (idle_fixed (by decide))
    · exact hOther (idle_fixed (by decide))
  · rw [Collection.sizeGuard, if_pos (Int.not_lt.mp hPositive)] at hLine
    cases hLine

theorem inserts_of_startsWith {x : String} (hCall : StartsWith ".add(" x) (y z : String) :
    Inserts f (line ((h.layout f).member ++ x ++ y ++ z)) :=
  ((hCall.prepend ("this." ++ f.name)).append y).append z

/-- The body of a method that adds: the check, the line that adds, and the notice. -/
theorem exists_body {a : Form} (hAdd : a.verb = .add) (h : Holding) (markers : List String)
    (f : BoundField) :
    ∃ l, Inserts f l ∧ (a.method h markers f).body.lines =
      Collection.sizeGuard f ("add" ++ f.suffix) ++ [l] ++ Collection.noticeIfBound f := by
  cases a with
  | add =>
    have hCall : StartsWith ".add(" ".add(" := by decide
    exact ⟨_, inserts_of_startsWith hCall ((h.layout f).toElement f.parameter) ");", rfl⟩
  | addAt =>
    have hCall : StartsWith ".add(" ".add(index, " := by decide
    exact ⟨_, inserts_of_startsWith hCall ((h.layout f).toElement f.parameter) ");", rfl⟩
  | _ => cases hAdd

theorem limited_of_condition {a : Form} {l : Line} (hLine : l ∈ (a.method h markers f).body.lines)
    (hText : l.text = conditionText f m) : a.verb = .add ∧ Limited f m := by
  by_cases hAdd : a.verb = .add
  · obtain ⟨insertion, hInserts, hBody⟩ := exists_body hAdd h markers f
    rw [hBody, List.mem_append, List.mem_append, List.mem_singleton] at hLine
    rcases hLine with (hGuard | rfl) | hNotice
    · exact ⟨hAdd, limited_of_mem_sizeGuard hGuard hText⟩
    · exact absurd hText hInserts.idle.ne_condition
    · exact absurd hText (idle_callIfBound _ l hNotice).ne_condition
  · exact absurd hText (idle_method hAdd l hLine).ne_condition

theorem guarded_iff {a : Form} (hAdd : a.verb = .add) :
    Guarded f m (a.method h markers f).body.lines ↔ Limited f m := by
  constructor
  · rintro ⟨rest, hBody, -⟩
    have hCondition : line (conditionText f m) ∈ (a.method h markers f).body.lines := by
      rw [hBody]
      exact List.mem_append_left _ (List.mem_cons_of_mem _ List.mem_cons_self)
    exact (limited_of_condition hCondition rfl).2
  · intro hLimited
    obtain ⟨rfl, hPositive⟩ := limited_iff.mp hLimited
    obtain ⟨insertion, hInserts, hBody⟩ := exists_body hAdd h markers f
    refine ⟨line "" :: insertion :: Collection.noticeIfBound f, ?_, insertion, by simp, hInserts⟩
    rw [hBody, sizeGuard_eq hPositive]
    simp

end Adding

/-! ## Both places -/

theorem exists_maximum_iff (s : Settings) (boundClass : String) (isIdentity : Bool) (f : BoundField)
    (m : Int) :
    (∃ l ∈ Xml.fieldBlock s boundClass isIdentity f, l.text = Xml.maximumText m) ↔ Limited f m := by
  have hFixed : ∀ p ∈ Xml.blockShape true true true [],
      p.Avoids "fieldValidator.setMaxOccurs(" ");" := by
    decide +kernel
  constructor
  · rintro ⟨l, hLine, hText⟩
    have hStarts : StartsWith "fieldValidator.setMaxOccurs(" l.text :=
      hText ▸ startsWith_self_append _ _
    have hEnds : EndsWith ");" l.text := by
      rw [hText, Xml.maximumText_eq]
      exact endsWith_append_self _ _
    obtain ⟨hPositive, hSame⟩ :=
      Xml.maximum_of_mem_fieldBlock s boundClass f hFixed hLine hStarts hEnds
    obtain rfl := maximumText_inj.mp (hText.symm.trans hSame)
    exact limited_iff.mpr ⟨rfl, hPositive⟩
  · intro hLimited
    obtain ⟨rfl, hPositive⟩ := limited_iff.mp hLimited
    refine ⟨line (Xml.maximumText f.maxSize), List.mem_append_right _ ?_, rfl⟩
    simp only [Xml.validatingLines, Xml.maximumText_eq, if_pos hPositive, List.mem_append,
      List.mem_singleton, true_or, or_true]

section Accessors

variable (s : Settings) (f : BoundField)

theorem name_method_eq_add_iff (h : Holding) (markers : List String) (a : Form) :
    (a.method h markers f).name = "add" ++ f.suffix ↔ a.verb = .add := by
  rw [Form.name_method]
  constructor
  · intro hName
    rcases Verb.append_cases (w := .add) hName with ⟨hVerb, -⟩ | ⟨-, hOther, -⟩ | ⟨-, hOther, -⟩
    · exact hVerb
    · cases hOther
    · cases hOther
  · intro hVerb
    cases a with
    | add | addAt => exact congrArg ("add" ++ ·) String.append_empty
    | _ => cases hVerb

theorem exists_accessor {a : Form} (hCalled : a.isCalledFor (.ofSettings s) f = true) :
    ∃ method ∈ accessors s f, method.signature = a.signature (.ofSettings s) f :=
  ⟨_, mem_accessors.mpr ⟨a, hCalled, rfl⟩, Form.signature_method _ _ f a⟩

/-- The bound class and the descriptor agree on the maximum of a field, whatever the settings are:
each checks it exactly if the field is a collection with a positive maximum. A collection has the
methods that add, and no other accessor checks a maximum. -/
theorem maximum_checked_iff (boundClass : String) (isIdentity : Bool) (m : Int) :
    (f.isCollection = true →
      (∃ method ∈ accessors s f,
        method.signature = signatureText ("add" ++ f.suffix) [(Holding.ofSettings s).valueType f]) ∧
      ((Holding.ofSettings s).isIndexed = true → ∃ method ∈ accessors s f,
        method.signature =
          signatureText ("add" ++ f.suffix) ["int", (Holding.ofSettings s).valueType f])) ∧
    (∀ method ∈ accessors s f, method.name = "add" ++ f.suffix →
      (Guarded f m method.body.lines ↔ Limited f m)) ∧
    ((∃ l ∈ Xml.fieldBlock s boundClass isIdentity f, l.text = Xml.maximumText m) ↔ Limited f m) ∧
    (∀ method ∈ accessors s f, (∃ l ∈ method.body.lines, l.text = conditionText f m) →
      method.name = "add" ++ f.suffix ∧ Limited f m) := by
  have hName : Form.add.name f = "add" ++ f.suffix := congrArg ("add" ++ ·) String.append_empty
  refine ⟨fun hMany => ⟨?_, fun hIndexed => ?_⟩, ?_, exists_maximum_iff s boundClass isIdentity f m,
    ?_⟩
  · rw [← hName]
    exact exists_accessor s f (a := .add) hMany
  · rw [← hName]
    refine exists_accessor s f (a := .addAt) ?_
    rw [Form.isCalledFor, hMany, hIndexed, Bool.and_self]
  · intro method hMem hAdds
    obtain ⟨a, -, rfl⟩ := mem_accessors.mp hMem
    exact guarded_iff ((name_method_eq_add_iff f _ _ a).mp hAdds)
  · rintro method hMem ⟨l, hLine, hText⟩
    obtain ⟨a, -, rfl⟩ := mem_accessors.mp hMem
    obtain ⟨hVerb, hLimited⟩ := limited_of_condition hLine hText
    exact ⟨(name_method_eq_add_iff f _ _ a).mpr hVerb, hLimited⟩

end Accessors

end BeanGen.Generation
