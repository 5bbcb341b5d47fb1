import BeanGen.Java.Literal
import Mathlib.Data.List.Infix
import Mathlib.Tactic.MkIffOfInductiveProp

/-!
# How texts start and end

Two texts part at the start if they differ at a place that both of them reach. What is added after
that place does not matter, so fixed texts are compared once and for all that may follow them, and
in the same way for what may stand before them.
-/

namespace BeanGen.Text

def StartsWith (head text : String) : Prop :=
  head.toList <+: text.toList

def EndsWith (tail text : String) : Prop :=
  tail.toList <:+ text.toList

instance (head text : String) : Decidable (StartsWith head text) :=
  inferInstanceAs (Decidable (_ <+: _))

instance (tail text : String) : Decidable (EndsWith tail text) :=
  inferInstanceAs (Decidable (_ <:+ _))

/-- Neither text is the start of the other. -/
@[mk_iff]
structure PartAtStart (a b : String) : Prop where
  left : ¬ StartsWith a b
  right : ¬ StartsWith b a

/-- Neither text is the end of the other. -/
@[mk_iff]
structure PartAtEnd (a b : String) : Prop where
  left : ¬ EndsWith a b
  right : ¬ EndsWith b a

instance (a b : String) : Decidable (PartAtStart a b) :=
  decidable_of_iff _ (partAtStart_iff a b).symm

instance (a b : String) : Decidable (PartAtEnd a b) :=
  decidable_of_iff _ (partAtEnd_iff a b).symm

section Start

variable {a b head text : String}

theorem StartsWith.append (h : StartsWith head text) (x : String) :
    StartsWith head (text ++ x) := by
  rw [StartsWith, String.toList_append]
  exact h.trans (List.prefix_append _ _)

theorem startsWith_self_append (head x : String) : StartsWith head (head ++ x) := by
  rw [StartsWith, String.toList_append]
  exact List.prefix_append _ _

theorem StartsWith.prepend (h : StartsWith a b) (x : String) : StartsWith (x ++ a) (x ++ b) := by
  rw [StartsWith, String.toList_append, String.toList_append]
  exact (List.prefix_append_right_inj _).mpr h

theorem StartsWith.of_append (h : StartsWith (a ++ b) text) : StartsWith a text :=
  (startsWith_self_append a b).trans h

theorem PartAtStart.append (h : PartAtStart a b) (x : String) : PartAtStart a (b ++ x) where
  left hStarts := by
    rw [StartsWith, String.toList_append] at hStarts
    rcases List.prefix_or_prefix_of_prefix hStarts (List.prefix_append _ _) with hLong | hShort
    · exact h.left hLong
    · exact h.right hShort
  right hStarts := h.right ((startsWith_self_append b x).trans hStarts)

theorem not_startsWith_append (h : PartAtStart head a) (x : String) :
    ¬ StartsWith head (a ++ x) :=
  (h.append x).left

end Start

section End

variable {a b tail text : String}

theorem endsWith_append_self (x tail : String) : EndsWith tail (x ++ tail) := by
  rw [EndsWith, String.toList_append]
  exact List.suffix_append _ _

theorem PartAtEnd.append (x : String) (h : PartAtEnd a b) : PartAtEnd a (x ++ b) where
  left hEnds := by
    rw [EndsWith, String.toList_append] at hEnds
    rcases List.suffix_or_suffix_of_suffix hEnds (List.suffix_append _ _) with hLong | hShort
    · exact h.left hLong
    · exact h.right hShort
  right hEnds := h.right ((endsWith_append_self x b).trans hEnds)

theorem not_endsWith_append (x : String) (h : PartAtEnd tail a) : ¬ EndsWith tail (x ++ a) :=
  (h.append x).left

theorem not_endsWith_inner {inner x : String} (text : String) (h : PartAtEnd tail (a ++ x)) :
    ¬ EndsWith tail (text ++ (inner ++ a) ++ x) := by
  rw [← String.append_assoc, String.append_assoc]
  exact not_endsWith_append _ h

theorem not_endsWith_stringLiteral {value x : String} (text : String)
    (h : PartAtEnd tail ("\"" ++ x)) :
    ¬ EndsWith tail (text ++ Java.stringLiteral value ++ x) := by
  have hClosed : Java.stringLiteral value =
      String.ofList ('"' :: value.toList.flatMap (Java.literalChar '"')) ++ "\"" := by
    simp [Java.stringLiteral, ← String.toList_inj]
  rw [hClosed]
  exact not_endsWith_inner text h

theorem EndsWith.of_append (h : EndsWith (a ++ b) text) : EndsWith b text :=
  (endsWith_append_self a b).trans h

theorem EndsWith.length_le (h : EndsWith tail text) : tail.length ≤ text.length := by
  rw [← String.length_toList, ← String.length_toList]
  exact List.IsSuffix.length_le h

end End

/-! ## Words at two places -/

/-- A word that ends at two places of a text does not fit twice unless its first character stands
between these places. -/
theorem mem_of_suffixes {c : Char} {cs xs text : List Char} (hWord : c :: cs <:+ text)
    (hBefore : c :: cs ++ xs <:+ text) (hApart : xs ≠ []) : c ∈ xs := by
  have hTail : cs ++ xs <:+ text := (List.suffix_cons c _).trans hBefore
  have hLength : (c :: cs).length ≤ (cs ++ xs).length := by
    have := List.length_pos_iff.mpr hApart
    simp only [List.length_cons, List.length_append]
    omega
  have hCount := (List.suffix_of_suffix_length_le hWord hTail hLength).sublist.count_le c
  rw [List.count_cons_self, List.count_append] at hCount
  exact List.count_pos_iff.mp (by omega)

theorem not_endsWith_both {word between tail text : String} {c : Char} {cs : List Char}
    (hFirst : word.toList = c :: cs) (hFree : c ∉ between.toList) (hApart : between ≠ "")
    (h : EndsWith (word ++ tail) text) : ¬ EndsWith (word ++ between ++ tail) text := by
  rintro ⟨before, hBefore⟩
  obtain ⟨after, hAfter⟩ := h
  have hEq : before ++ (c :: cs ++ between.toList) = after ++ c :: cs := by
    rw [← hAfter] at hBefore
    simp only [String.toList_append, ← List.append_assoc, List.append_cancel_right_eq] at hBefore
    rw [← hFirst, ← List.append_assoc, hBefore]
  have hWord : c :: cs <:+ after ++ c :: cs := List.suffix_append _ _
  have hLong : c :: cs ++ between.toList <:+ after ++ c :: cs := hEq ▸ List.suffix_append _ _
  exact hFree (mem_of_suffixes hWord hLong fun hNil => hApart (String.toList_inj.mp hNil))

/-! ## Several starts -/

/-- The text starts with none of these. -/
def StartsWithNone (heads : List String) (text : String) : Prop :=
  ∀ head ∈ heads, ¬ StartsWith head text

def PartsAtStart (heads : List String) (text : String) : Prop :=
  ∀ head ∈ heads, PartAtStart head text

instance (heads : List String) (text : String) : Decidable (StartsWithNone heads text) :=
  inferInstanceAs (Decidable (∀ head ∈ heads, _))

instance (heads : List String) (text : String) : Decidable (PartsAtStart heads text) :=
  inferInstanceAs (Decidable (∀ head ∈ heads, _))

theorem startsWithNone_append {heads : List String} {a : String} (h : PartsAtStart heads a)
    (x : String) : StartsWithNone heads (a ++ x) :=
  fun head hHead => not_startsWith_append (h head hHead) x

theorem StartsWith.startsWithNone {heads : List String} {a text : String} (h : StartsWith a text)
    (hParts : PartsAtStart heads a) : StartsWithNone heads text := by
  obtain ⟨rest, hRest⟩ := h
  obtain rfl : text = a ++ String.ofList rest := by
    rw [← String.toList_inj, String.toList_append, String.toList_ofList, hRest]
  exact startsWithNone_append hParts _

end BeanGen.Text
