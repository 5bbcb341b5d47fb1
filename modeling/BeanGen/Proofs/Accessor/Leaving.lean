import BeanGen.Accessor.Collection
import BeanGen.Accessor.Scalar
import BeanGen.Proofs.Text.Word

/-!
# Where accessors may return

The lines of accessors are fixed but for names, numbers and types that the field supplies. Those
that check a value, change the member or make ready for the change do not have the word `return`,
unless one of these texts brings it along.
-/

namespace BeanGen.Accessor

open Java Text

/-- What a field supplies to the lines of its accessors: its names, its maximum and its type. -/
def lineTexts (f : BoundField) : List String :=
  [f.name, f.property, capitalize f.property, f.suffix, toString f.maxSize, f.valueType.written,
    f.valueType.writtenBoxed]

/-- The text has the word `return` from the field at most. -/
def Stays (f : BoundField) (text : String) : Prop :=
  Borrows (lineTexts f) "return" text

section Pieces

variable {h : Holding} {f : BoundField} {expr : String}

theorem stays_name : Stays f f.name :=
  .given (by simp [lineTexts])

theorem stays_property : Stays f f.property :=
  .given (by simp [lineTexts])

theorem stays_maxSize : Stays f (toString f.maxSize) :=
  .given (by simp [lineTexts])

theorem stays_member : Stays f ("this." ++ f.name) :=
  .opened (by decide) stays_name

theorem stays_parameter : Stays f f.parameter :=
  .opened (by decide) (.given (by simp [lineTexts]))

theorem stays_array : Stays f (f.parameter ++ "Array") :=
  .closed stays_parameter (by decide)

theorem stays_otherCollection : Stays f (f.property ++ "Collection") :=
  .closed stays_property (by decide)

theorem stays_writeMethod : Stays f f.writeMethod :=
  .opened (by decide) (.given (by simp [lineTexts]))

theorem stays_adder : Stays f ("add" ++ f.suffix) :=
  .opened (by decide) (.given (by simp [lineTexts]))

theorem stays_boxed (hPrimitive : f.valueType.isPrimitive = true) : Stays f f.valueType.boxed := by
  rw [BoundField.valueType] at hPrimitive ⊢
  cases hContent : f.content with
  | string | decimal | date | bound =>
    rw [hContent] at hPrimitive
    cases hPrimitive
  | _ => exact .fixed (by decide)

theorem stays_toObject (h : Stays f expr) : Stays f (f.valueType.toObject expr) := by
  rw [ValueType.toObject]
  split
  · rename_i hPrimitive
    exact .closed (.between (stays_boxed hPrimitive) (by decide) h) (by decide)
  · exact h

theorem stays_toElement (hExpr : Stays f expr) : Stays f ((h.layout f).toElement expr) := by
  rw [Layout.toElement]
  split
  · exact hExpr
  · exact stays_toObject hExpr

/-- A call on the member with the value that the accessor is given. -/
theorem stays_call {call : List Char} (hCall : Fences ['r', 'e', 't', 'u', 'r', 'n'] call) :
    Stays f ("this." ++ f.name ++ String.ofList call ++ (h.layout f).toElement f.parameter ++
      ");") :=
  .closed (.between stays_member hCall (stays_toElement stays_parameter)) (by decide)

/-- What takes a value out of a collection is of the type of the values, or any object. -/
theorem stays_holder :
    Stays f (if (h.layout f).isTyped then (h.layout f).valueType else "Object") := by
  split
  · show Stays f (if h.modern then f.valueType.writtenBoxed else f.valueType.written)
    split
    · exact .given (by simp [lineTexts])
    · exact .given (by simp [lineTexts])
  · exact .fixed (by decide)

end Pieces

section Lines

variable {h : Holding} {f : BoundField} {methodName : String}

theorem stays_keepingLine :
    Stays f ("Object " ++ Scalar.formerName f ++ " = " ++
      f.valueType.toObject ("this." ++ f.name) ++ ";") := by
  have hFormer : Stays f (Scalar.formerName f) := .opened (by decide) (.given (by simp [lineTexts]))
  have hValue : Stays f (f.valueType.toObject ("this." ++ f.name)) := stays_toObject stays_member
  exact .closed (.between (.opened (by decide) hFormer) (by decide) hValue) (by decide)

theorem stays_assignment : Stays f ("this." ++ f.name ++ " = " ++ f.property ++ ";") :=
  .closed (.between stays_member (by decide) stays_property) (by decide)

theorem stays_markingLine : Stays f ("this." ++ f.flagName ++ " = true;") := by
  have hFlag : Stays f f.flagName := .opened (by decide) stays_property
  exact .enclosed (by decide) hFlag (by decide)

theorem stays_thrown : Stays f ("throw new " ++ Collection.outOfBounds) :=
  .absent (by decide +kernel)

theorem stays_separator : ∀ l ∈ [line "", line "// notify listeners"], Stays f l.text :=
  List.forall_mem_cons.mpr ⟨.fixed (by decide), List.forall_mem_singleton.mpr (.fixed (by decide))⟩

theorem stays_sizeGuard (hMethod : Stays f methodName) :
    ∀ l ∈ Collection.sizeGuard f methodName, Stays f l.text := by
  rw [Collection.sizeGuard]
  split
  · exact List.forall_mem_nil _
  · simp only [List.forall_mem_cons, line, indented]
    refine ⟨.fixed (by decide +kernel), ?_, ?_, .fixed (by decide), .fixed (by decide),
      List.forall_mem_nil _⟩
    · exact .closed (.between (.opened (by decide) stays_name) (by decide) stays_maxSize)
        (by decide)
    · exact .closed (.between (.between stays_thrown (by decide) hMethod) (by decide) stays_maxSize)
        (by decide)

theorem stays_indexGuard (hMethod : Stays f methodName) :
    ∀ l ∈ Collection.indexGuard (h.layout f) methodName, Stays f l.text := by
  have hMember : Stays f (h.layout f).member := stays_member
  simp only [Collection.indexGuard, List.forall_mem_cons, line, indented]
  refine ⟨.fixed (by decide +kernel), .enclosed (by decide +kernel) hMember (by decide), ?_,
    .fixed (by decide), .fixed (by decide), List.forall_mem_nil _⟩
  exact .closed (.between (.between stays_thrown (by decide) hMethod) (by decide +kernel) hMember)
    (by decide)

/-- The lines that copy an array into the member. -/
theorem stays_copyLines :
    ∀ l ∈ [line "",
      line ("for (int i = 0; i < " ++ (f.parameter ++ "Array") ++ ".length; i++) \x7b"),
      indented ((h.layout f).member ++ ".add(" ++
        (h.layout f).toElement (f.parameter ++ "Array" ++ "[i]") ++ ");"), line "\x7d"],
      Stays f l.text := by
  have hValue : Stays f ((h.layout f).toElement (f.parameter ++ "Array" ++ "[i]")) :=
    stays_toElement (.closed stays_array (by decide))
  simp only [List.forall_mem_cons, line, indented]
  refine ⟨.fixed (by decide), .enclosed (by decide +kernel) stays_array (by decide), ?_,
    .fixed (by decide), List.forall_mem_nil _⟩
  exact .closed (.between stays_member (by decide) hValue) (by decide)

/-- The lines that copy another collection into the member. -/
theorem stays_addAllLines :
    ∀ l ∈ [line "", line ((h.layout f).member ++ ".addAll(" ++ (f.parameter ++ "List") ++ ");")],
      Stays f l.text := by
  have hOther : Stays f (f.parameter ++ "List") := .closed stays_parameter (by decide)
  simp only [List.forall_mem_cons, line]
  refine ⟨.fixed (by decide), ?_, List.forall_mem_nil _⟩
  exact .closed (.between stays_member (by decide) hOther) (by decide)

end Lines

end BeanGen.Accessor
