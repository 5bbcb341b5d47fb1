import BeanGen.Proofs.Conflict.Terminal
import Mathlib.Data.List.TakeWhile

/-!
# The line that decides a question

An input is cut into lines behind its line breaks, and what is left of the lines is cut from what is
left of the input. So a question takes a stretch of the input: the lines that say nothing to it, and
the line that decides it. The next question starts right behind that line.
-/

namespace BeanGen.Conflict.Terminal

/-! ## Lines -/

/-- The input is made of these lines. Each ends with its only line break, which the last may lack.
-/
inductive Lines : List RawLine → List UInt8 → Prop
  | nil : Lines [] []
  | last {body : RawLine} : body ≠ [] → lineBreak ∉ body → Lines [body] body
  | cons {body : RawLine} {lines : List RawLine} {rest : List UInt8} : lineBreak ∉ body →
      Lines lines rest → Lines ((body ++ [lineBreak]) :: lines) (body ++ lineBreak :: rest)

theorem linesOf_unbroken {body : List UInt8} (hSome : body ≠ []) (hBody : lineBreak ∉ body) :
    linesOf body = [body] := by
  induction body with
  | nil => exact absurd rfl hSome
  | cons b body ih =>
    have hTail := List.not_mem_of_not_mem_cons hBody
    rw [linesOf, if_neg (Ne.symm (List.ne_of_not_mem_cons hBody))]
    cases body with
    | nil => rfl
    | cons next body => rw [ih (by simp) hTail]

theorem linesOf_append_lineBreak {body : List UInt8} (hBody : lineBreak ∉ body)
    (rest : List UInt8) :
    linesOf (body ++ lineBreak :: rest) = (body ++ [lineBreak]) :: linesOf rest := by
  induction body with
  | nil => simp [linesOf]
  | cons b body ih =>
    have hTail := List.not_mem_of_not_mem_cons hBody
    rw [List.cons_append, linesOf, if_neg (Ne.symm (List.ne_of_not_mem_cons hBody)), ih hTail]
    rfl

namespace Lines

variable {lines before after : List RawLine} {input : List UInt8}

theorem linesOf_eq (h : Lines lines input) : linesOf input = lines := by
  induction h with
  | nil => rfl
  | last hSome hBody => exact linesOf_unbroken hSome hBody
  | cons hBody _ ih => rw [linesOf_append_lineBreak hBody, ih]

theorem cons_byte {b : UInt8} (h : Lines lines input) : ∃ longer, Lines longer (b :: input) := by
  by_cases hBreak : b = lineBreak
  · have hEmpty : Lines (([] ++ [lineBreak]) :: lines) ([] ++ lineBreak :: input) :=
      .cons List.not_mem_nil h
    exact ⟨_, hBreak ▸ hEmpty⟩
  · have hFree : ∀ {body : RawLine}, lineBreak ∉ body → lineBreak ∉ b :: body := fun hBody =>
      List.not_mem_cons_of_ne_of_not_mem (Ne.symm hBreak) hBody
    cases h with
    | nil => exact ⟨_, .last (List.cons_ne_nil b []) (hFree List.not_mem_nil)⟩
    | last _ hBody => exact ⟨_, .last (List.cons_ne_nil b _) (hFree hBody)⟩
    | cons hBody hRest => exact ⟨_, .cons (hFree hBody) hRest⟩

theorem exists_suffix (h : Lines (before ++ after) input) :
    ∃ rest, input = before.flatten ++ rest ∧ Lines after rest := by
  induction before generalizing input with
  | nil => exact ⟨input, rfl, h⟩
  | cons l before ih =>
    generalize hLines : l :: before ++ after = lines at h
    cases h with
    | nil => cases hLines
    | last hSome hBody =>
      obtain ⟨rfl, hNone⟩ := List.cons.inj hLines
      obtain ⟨rfl, rfl⟩ := List.append_eq_nil_iff.mp hNone
      exact ⟨[], by simp, .nil⟩
    | cons hBody hRest =>
      obtain ⟨rfl, rfl⟩ := List.cons.inj hLines
      obtain ⟨rest, rfl, hAfter⟩ := ih hRest
      exact ⟨rest, by simp, hAfter⟩

end Lines

theorem lines_linesOf (input : List UInt8) : Lines (linesOf input) input := by
  suffices hLines : ∃ lines, Lines lines input by
    obtain ⟨lines, h⟩ := hLines
    rwa [h.linesOf_eq]
  induction input with
  | nil => exact ⟨[], .nil⟩
  | cons b input ih =>
    obtain ⟨lines, h⟩ := ih
    exact h.cons_byte

/-- The lines behind the first ones are the lines of the input behind those. -/
theorem exists_linesOf_suffix {before after : List RawLine} {input : List UInt8}
    (h : linesOf input = before ++ after) :
    ∃ rest, input = before.flatten ++ rest ∧ linesOf rest = after := by
  obtain ⟨rest, hInput, hAfter⟩ := (h ▸ lines_linesOf input).exists_suffix
  exact ⟨rest, hInput, hAfter.linesOf_eq⟩

/-! ## Answers -/

/-- The answer that a line gives: its first character that is not blank, as a small letter, if it is
one of the responses. A line that is no text gives none. -/
def answerOf? (q : Question) (l : RawLine) : Option Char :=
  (decodeLine l).bind fun text =>
    ((text.toList.find? (!Text.isBlank ·)).map Char.toLower).filter (q.responses.toList.contains ·)

theorem firstLetter?_eq_find? (text : String) :
    firstLetter? text = (text.toList.find? (!Text.isBlank ·)).map Char.toLower := by
  rw [firstLetter?, List.find?_not_eq_head?_dropWhile]

theorem judge_eq (q : Question) (l : RawLine) :
    judge q l = match decodeLine l, answerOf? q l with
      | none, _ => .unreadable
      | some _, some c => .accepted c
      | some _, none => .rejected := by
  rw [judge, answerOf?]
  cases decodeLine l with
  | none => rfl
  | some text =>
    simp only [Option.bind_some, ← firstLetter?_eq_find?]
    cases firstLetter? text with
    | none => rfl
    | some c => by_cases hResponse : c ∈ q.responses.toList <;> simp [Option.filter, hResponse]

theorem judge_eq_rejected_iff {q : Question} {l : RawLine} :
    judge q l = .rejected ↔ (decodeLine l).isSome = true ∧ answerOf? q l = none := by
  rw [judge_eq]
  cases decodeLine l <;> cases answerOf? q l <;> simp

theorem judge_eq_unreadable_iff {q : Question} {l : RawLine} :
    judge q l = .unreadable ↔ decodeLine l = none := by
  rw [judge_eq]
  cases decodeLine l <;> cases answerOf? q l <;> simp

theorem judge_eq_accepted_iff {q : Question} {l : RawLine} {c : Char} :
    judge q l = .accepted c ↔ answerOf? q l = some c := by
  rw [judge_eq]
  cases hText : decodeLine l with
  | none => simp [answerOf?, hText]
  | some text => cases answerOf? q l <;> simp

/-- The answer of the first line that gives one, unless a line that is no text comes before it. -/
def firstAnswer? (q : Question) (lines : List RawLine) : Option Char :=
  (lines.takeWhile (decodeLine · |>.isSome)).findSome? (answerOf? q)

section Decision

variable {q : Question} {passed after : List RawLine} {l : RawLine}

/-- The line says nothing to the question: it is a text that does not start with a response. -/
def SaysNothing (q : Question) (l : RawLine) : Prop :=
  (decodeLine l).isSome = true ∧ answerOf? q l = none

theorem firstAnswer?_append (h : ∀ l ∈ passed, SaysNothing q l) (after : List RawLine) :
    firstAnswer? q (passed ++ after) = firstAnswer? q after := by
  induction passed with
  | nil => rfl
  | cons l passed ih =>
    obtain ⟨⟨hText, hNone⟩, hRest⟩ := List.forall_mem_cons.mp h
    have hSkip : firstAnswer? q (l :: (passed ++ after)) = firstAnswer? q (passed ++ after) := by
      simp [firstAnswer?, hText, hNone]
    rw [List.cons_append, hSkip, ih hRest]

theorem firstAnswer?_of_answer {c : Char} (h : answerOf? q l = some c) :
    firstAnswer? q (l :: after) = some c := by
  have hText : (decodeLine l).isSome = true := by
    cases hLine : decodeLine l with
    | none => simp [answerOf?, hLine] at h
    | some text => rfl
  simp [firstAnswer?, hText, h]

theorem firstAnswer?_of_unreadable (h : decodeLine l = none) :
    firstAnswer? q (l :: after) = none := by
  simp [firstAnswer?, h]

end Decision

/-- How a question ends with an answer or without one, behind the lines that say nothing to it: at a
line that gives the answer, at one that is no text, or at the end of the input. -/
inductive Decides (q : Question) : List RawLine → List UInt8 → Option Char → Prop
  | answered {l : RawLine} {rest : List UInt8} {c : Char} : answerOf? q l = some c →
      Decides q [l] rest (some c)
  | unreadable {l : RawLine} {rest : List UInt8} : decodeLine l = none → Decides q [l] rest none
  | finished : Decides q [] [] none

/-- A question takes the lines that say nothing to it and the one that decides it, and nothing of
the input behind that. For each line that says nothing it prints its prompt and its legend, and then
the prompt once more. Its answer is that of the deciding line, or else `n`. -/
theorem confirm_takes_through_decision (q : Question) (input : List UInt8) :
    Lines (linesOf input) input ∧
    ∃ passed deciding rest,
      linesOf input = passed ++ (deciding ++ linesOf rest) ∧
      input = passed.flatten ++ (deciding.flatten ++ rest) ∧
      (∀ l ∈ passed, SaysNothing q l) ∧
      Decides q deciding rest (firstAnswer? q (linesOf input)) ∧
      confirm q (linesOf input) =
        ⟨(firstAnswer? q (linesOf input)).getD 'n', linesOf rest,
          prompts q passed ++ if (firstAnswer? q (linesOf input)).isSome then []
            else [.noted .noAnswer]⟩ := by
  obtain ⟨passed, hJudged, hEnds⟩ := confirm_ends q (linesOf input)
  have hPassed : ∀ l ∈ passed, SaysNothing q l := fun l hl =>
    judge_eq_rejected_iff.mp (hJudged l hl)
  refine ⟨lines_linesOf input, passed, ?_⟩
  generalize hLines : linesOf input = lines at hEnds ⊢
  generalize confirm q lines = r at hEnds ⊢
  cases hEnds with
  | @accepted l after c hJudge =>
    have hAnswer := judge_eq_accepted_iff.mp hJudge
    have hTaken : linesOf input = (passed ++ [l]) ++ after := by simpa using hLines
    obtain ⟨rest, hInput, rfl⟩ := exists_linesOf_suffix hTaken
    rw [firstAnswer?_append hPassed, firstAnswer?_of_answer hAnswer]
    exact ⟨[l], rest, rfl, by simpa using hInput, hPassed, .answered hAnswer, by simp⟩
  | @unreadable l after hJudge =>
    have hNoText := judge_eq_unreadable_iff.mp hJudge
    have hTaken : linesOf input = (passed ++ [l]) ++ after := by simpa using hLines
    obtain ⟨rest, hInput, rfl⟩ := exists_linesOf_suffix hTaken
    rw [firstAnswer?_append hPassed, firstAnswer?_of_unreadable hNoText]
    exact ⟨[l], rest, rfl, by simpa using hInput, hPassed, .unreadable hNoText, by simp⟩
  | finished =>
    have hNone : firstAnswer? q passed = none := by
      simpa [firstAnswer?] using firstAnswer?_append hPassed []
    have hInput := flatten_linesOf input
    rw [hLines] at hInput
    rw [hNone]
    exact ⟨[], [], by simp [linesOf], by simp [hInput], hPassed, .finished, by simp [linesOf]⟩

end BeanGen.Conflict.Terminal
