import Mathlib.Data.List.Infix
import Mathlib.Tactic.MkIffOfInductiveProp

/-!
# Words in a text

A text put together from pieces may have a word that none of the pieces has. A fixed piece is a fence
for the word if no place of the word reaches into it: a text with fences between its other pieces has
the word only where one of these has it.
-/

namespace BeanGen.Text

/-- The word stands somewhere in the text. -/
def StandsIn (word text : String) : Prop :=
  word.toList <:+: text.toList

instance (word text : String) : Decidable (StandsIn word text) :=
  inferInstanceAs (Decidable (_ <:+: _))

/-- If the text has the word, it has it from one of the given texts. -/
def Borrows (given : List String) (word text : String) : Prop :=
  StandsIn word text → ∃ g ∈ given, StandsIn word g ∧ StandsIn g text

theorem StandsIn.append {word text : String} (h : StandsIn word text) (rest : String) :
    StandsIn word (text ++ rest) := by
  rw [StandsIn, String.toList_append]
  exact h.trans (List.prefix_append _ _).isInfix

theorem StandsIn.prepend {word text : String} (h : StandsIn word text) (rest : String) :
    StandsIn word (rest ++ text) := by
  rw [StandsIn, String.toList_append]
  exact h.trans (List.suffix_append _ _).isInfix

/-! ## Fences -/

/-- The word does not stand in the piece. Wherever it is cut, its first part is not at the end of the
piece, and its last part not at the start, nor is the piece at the start of that part. -/
@[mk_iff]
structure Fences (word piece : List Char) : Prop where
  absent : ¬ word <:+: piece
  uncut : ∀ k < word.length, k ≠ 0 →
    ¬ word.take k <:+ piece ∧ ¬ word.drop k <+: piece ∧ ¬ piece <+: word.drop k

instance (word piece : List Char) : Decidable (Fences word piece) :=
  decidable_of_iff _ (fences_iff word piece).symm

section Fences

variable {word piece before after xs ys : List Char}

theorem Fences.cut (h : Fences word piece) (hWord : word = before ++ after) (hBefore : before ≠ [])
    (hAfter : after ≠ []) :
    ¬ before <:+ piece ∧ ¬ after <+: piece ∧ ¬ piece <+: after := by
  have hStart : before.length ≠ 0 := List.length_eq_zero_iff.not.mpr hBefore
  have hEnd : 0 < after.length := List.length_pos_iff.mpr hAfter
  have hCut := h.uncut before.length (by rw [hWord, List.length_append]; omega) hStart
  rwa [hWord, List.take_left, List.drop_left] at hCut

theorem Fences.infix_left (h : Fences word piece) (hInfix : word <:+: xs ++ piece) :
    word <:+: xs := by
  rcases List.infix_append_iff.mp hInfix with hFirst | hPiece | ⟨before, after, hWord, hEnd, hStart⟩
  · exact hFirst
  · exact absurd hPiece h.absent
  · by_cases hAfter : after = []
    · rw [hAfter, List.append_nil] at hWord
      exact hWord ▸ hEnd.isInfix
    by_cases hBefore : before = []
    · rw [hBefore, List.nil_append] at hWord
      exact absurd (hWord ▸ hStart.isInfix) h.absent
    · exact absurd hStart (h.cut hWord hBefore hAfter).2.1

/-- Where a fence stands between two texts, the word is in one of them. -/
theorem Fences.infix_or (h : Fences word piece) (hInfix : word <:+: xs ++ piece ++ ys) :
    word <:+: xs ∨ word <:+: ys := by
  rcases List.infix_append_iff.mp hInfix with hFirst | hLast | ⟨before, after, hWord, hEnd, hStart⟩
  · exact .inl (h.infix_left hFirst)
  · exact .inr hLast
  · by_cases hBefore : before = []
    · rw [hBefore, List.nil_append] at hWord
      exact .inr (hWord ▸ hStart.isInfix)
    by_cases hAfter : after = []
    · rw [hAfter, List.append_nil] at hWord
      exact .inl (h.infix_left (hWord ▸ hEnd.isInfix))
    have hCut := h.cut hWord hBefore hAfter
    -- the first part does not end within the fence, so the fence lies within the word
    rcases List.suffix_or_suffix_of_suffix hEnd (List.suffix_append xs piece) with hShort | hLong
    · exact absurd hShort hCut.1
    · obtain ⟨first, rfl⟩ := hLong
      have hFirst : first ≠ [] := fun hNil => hCut.1 (hNil ▸ List.suffix_refl _)
      have hRest : piece ++ after ≠ [] := List.append_ne_nil_of_right_ne_nil _ hAfter
      rw [List.append_assoc] at hWord
      exact absurd (List.prefix_append piece after) (h.cut hWord hFirst hRest).2.2

end Fences

/-! ## Texts with fences -/

namespace Borrows

variable {texts : List String} {word piece : List Char} {a b : String}

theorem given {text : String} {word : String} (h : text ∈ texts) : Borrows texts word text :=
  fun hWord => ⟨text, h, hWord, List.infix_refl _⟩

theorem absent {word : String} (h : ¬ StandsIn word a) : Borrows texts word a :=
  fun hWord => absurd hWord h

theorem fixed (h : ¬ word <:+: piece) : Borrows texts (String.ofList word) (String.ofList piece) :=
  .absent (by rwa [StandsIn, String.toList_ofList, String.toList_ofList])

/-- A text with a fence between its parts. -/
theorem between (hA : Borrows texts (String.ofList word) a) (h : Fences word piece)
    (hB : Borrows texts (String.ofList word) b) :
    Borrows texts (String.ofList word) (a ++ String.ofList piece ++ b) := by
  intro hWord
  have hParts : StandsIn (String.ofList word) a ∨ StandsIn (String.ofList word) b := by
    simp only [StandsIn, String.toList_append, String.toList_ofList] at hWord ⊢
    exact h.infix_or hWord
  rcases hParts with hFirst | hLast
  · obtain ⟨g, hGiven, hHas, hStands⟩ := hA hFirst
    exact ⟨g, hGiven, hHas, (hStands.append _).append _⟩
  · obtain ⟨g, hGiven, hHas, hStands⟩ := hB hLast
    exact ⟨g, hGiven, hHas, hStands.prepend _⟩

theorem empty (h : Fences word piece) : Borrows texts (String.ofList word) "" := by
  refine .absent fun hWord => h.absent ?_
  rw [StandsIn, String.toList_ofList, String.toList_empty] at hWord
  rw [List.infix_nil.mp hWord]
  exact List.nil_infix

theorem opened (h : Fences word piece) (hB : Borrows texts (String.ofList word) b) :
    Borrows texts (String.ofList word) (String.ofList piece ++ b) := by
  have hText := between (empty h) h hB
  rwa [String.empty_append] at hText

theorem closed (hA : Borrows texts (String.ofList word) a) (h : Fences word piece) :
    Borrows texts (String.ofList word) (a ++ String.ofList piece) := by
  have hText := between hA h (empty h)
  rwa [String.append_empty] at hText

theorem enclosed {after : List Char} (h : Fences word piece)
    (hB : Borrows texts (String.ofList word) b) (hAfter : Fences word after) :
    Borrows texts (String.ofList word) (String.ofList piece ++ b ++ String.ofList after) :=
  (hB.opened h).closed hAfter

theorem intercalate (h : Fences word piece) {parts : List String}
    (hParts : ∀ part ∈ parts, Borrows texts (String.ofList word) part) :
    Borrows texts (String.ofList word) (String.intercalate (String.ofList piece) parts) := by
  induction parts with
  | nil =>
    rw [String.intercalate_nil]
    exact .empty h
  | cons part rest ih =>
    obtain ⟨hPart, hRest⟩ := List.forall_mem_cons.mp hParts
    cases rest with
    | nil =>
      rw [String.intercalate_singleton]
      exact hPart
    | cons next rest =>
      rw [String.intercalate_cons_cons]
      exact .between hPart h (ih hRest)

end Borrows

end BeanGen.Text
