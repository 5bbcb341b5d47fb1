import BeanGen.Conflict.Terminal
import BeanGen.Proofs.Conflict.Strategy

/-!
# What a terminal reads

To answer a question a terminal reads line after line until one of them holds a possible answer, or
cannot be read, or the input ends. Hence an answer other than `n` has a line of its own, which was
read for this question and for no other.
-/

namespace BeanGen.Conflict.Terminal

theorem flatten_linesOf (input : List UInt8) : (linesOf input).flatten = input := by
  induction input with
  | nil => rfl
  | cons b bs ih =>
    rw [linesOf]
    split
    · rw [List.flatten_cons, ih]
      rfl
    · cases hLines : linesOf bs with
      | nil =>
        rw [hLines] at ih
        rw [← ih]
        rfl
      | cons l ls =>
        rw [hLines] at ih
        rw [← ih]
        rfl

/-- A line whose first character that is not blank is a `y`, small or capital. -/
def SaysYes (l : RawLine) : Prop :=
  ∃ line c, decodeLine l = some line ∧ (line.toList.dropWhile Text.isBlank).head? = some c ∧
    (c = 'y' ∨ c = 'Y')

theorem eq_of_toLower_eq {c : Char} (h : c.toLower = 'y') : c = 'y' ∨ c = 'Y' := by
  delta Char.toLower at h
  split at h
  · have hVal : c.val + 32 = 'y'.val := congrArg Char.val h
    refine .inr (Char.ext ?_)
    exact (UInt32.add_left_inj 32).mp hVal
  · exact .inl h

theorem judge_cases {q : Question} {l : RawLine} {c : Char} (h : judge q l = .accepted c) :
    c ∈ q.responses.toList ∧ ∃ line, decodeLine l = some line ∧ firstLetter? line = some c := by
  rw [judge] at h
  split at h
  · cases h
  · rename_i line hLine
    split at h
    · cases h
    · rename_i c' hLetter
      split at h
      · rename_i hMem
        cases h
        exact ⟨by simpa using hMem, line, hLine, hLetter⟩
      · cases h

theorem saysYes_of_judge {q : Question} {l : RawLine} (h : judge q l = .accepted 'y') :
    SaysYes l := by
  obtain ⟨-, line, hLine, hLetter⟩ := judge_cases h
  rw [firstLetter?, Option.map_eq_some_iff] at hLetter
  obtain ⟨c, hHead, hLower⟩ := hLetter
  exact ⟨line, c, hLine, hHead, eq_of_toLower_eq hLower⟩

theorem not_saysYes_of_unreadable {l : RawLine} (h : decodeLine l = none) : ¬ SaysYes l := by
  rintro ⟨line, c, hLine, -⟩
  rw [h] at hLine
  cases hLine

/-- What is printed for a question over some lines without a possible answer. -/
def prompts (q : Question) (rejected : List RawLine) : List Happening :=
  (rejected.flatMap fun _ => [.printed (prompt q), .printed (reminder q)]) ++ [.printed (prompt q)]

/-- How a question ends after some lines without a possible answer. -/
inductive Ends (q : Question) (rejected : List RawLine) :
    List RawLine → Reply (List RawLine) → Prop
  | accepted {l : RawLine} {rest : List RawLine} {c : Char} : judge q l = .accepted c →
      Ends q rejected (rejected ++ l :: rest) ⟨c, rest, prompts q rejected⟩
  | unreadable {l : RawLine} {rest : List RawLine} : judge q l = .unreadable →
      Ends q rejected (rejected ++ l :: rest) ⟨'n', rest, prompts q rejected ++ [.noted .noAnswer]⟩
  | finished : Ends q rejected rejected ⟨'n', [], prompts q rejected ++ [.noted .noAnswer]⟩

theorem confirm_ends (q : Question) (lines : List RawLine) :
    ∃ rejected, (∀ l ∈ rejected, judge q l = .rejected) ∧
      Ends q rejected lines (confirm q lines) := by
  have hGo : confirm q lines = confirm.go q lines := rfl
  rw [hGo]
  induction lines with
  | nil => exact ⟨[], by simp, .finished⟩
  | cons l rest ih =>
    rw [confirm.go]
    cases hJudge : judge q l with
    | accepted c => exact ⟨[], by simp, .accepted hJudge⟩
    | unreadable => exact ⟨[], by simp, .unreadable hJudge⟩
    | rejected =>
      obtain ⟨rejected, hRejected, hEnds⟩ := ih rfl
      refine ⟨l :: rejected, List.forall_mem_cons.mpr ⟨hJudge, hRejected⟩, ?_⟩
      generalize confirm.go q rest = r at hEnds
      cases hEnds with
      | accepted hAnswer => exact .accepted hAnswer
      | unreadable hAnswer => exact .unreadable hAnswer
      | finished => exact .finished

/-- A question was put, and it was granted by a line of the input read for it alone. -/
def Granted (q : Question) (source rest : List RawLine) (trace : List Happening) : Prop :=
  ∃ rejected l, source = rejected ++ l :: rest ∧ (∀ l ∈ rejected, judge q l = .rejected) ∧
    SaysYes l ∧ trace = prompts q rejected ++ [.answered q 'y']

theorem Granted.exists_saysYes {q : Question} {source rest : List RawLine} {trace : List Happening}
    (h : Granted q source rest trace) : ∃ l ∈ source, SaysYes l := by
  obtain ⟨rejected, l, rfl, -, hYes, -⟩ := h
  exact ⟨l, List.mem_append_right rejected List.mem_cons_self, hYes⟩

/-- The end of the input and a line that cannot be read count as `n`, so `y` is read from a line. -/
theorem granted_of_answer {q : Question} {lines : List RawLine}
    (h : (confirm q lines).answer = 'y') :
    Granted q lines (confirm q lines).rest
      ((confirm q lines).trace ++ [.answered q (confirm q lines).answer]) := by
  obtain ⟨rejected, hRejected, hEnds⟩ := confirm_ends q lines
  generalize confirm q lines = r at h hEnds
  cases hEnds with
  | @accepted l rest c hJudge =>
    cases h
    exact ⟨rejected, l, rfl, hRejected, saysYes_of_judge hJudge, rfl⟩
  | unreadable => cases h
  | finished => cases h

theorem answer_cases (q : Question) (lines : List RawLine) :
    (confirm q lines).answer ∈ q.responses.toList ∨ (confirm q lines).answer = 'n' := by
  obtain ⟨rejected, -, hEnds⟩ := confirm_ends q lines
  generalize confirm q lines = r at hEnds
  cases hEnds with
  | accepted hJudge => exact .inl (judge_cases hJudge).1
  | unreadable => exact .inr rfl
  | finished => exact .inr rfl

theorem rest_suffix (q : Question) (lines : List RawLine) : (confirm q lines).rest <:+ lines := by
  obtain ⟨rejected, -, hEnds⟩ := confirm_ends q lines
  generalize confirm q lines = r at hEnds
  cases hEnds with
  | @accepted l rest c hJudge => exact ⟨rejected ++ [l], by simp⟩
  | @unreadable l rest hJudge => exact ⟨rejected ++ [l], by simp⟩
  | finished => exact List.nil_suffix

/-- Whatever is inquired, the input is read from its front. -/
theorem answer_suffix {α : Type} (m : Inquiry α) (lines : List RawLine) :
    (m.answer (some confirm) lines).rest <:+ lines := by
  induction m generalizing lines with
  | done a => exact List.suffix_refl lines
  | note e next ih => exact ih lines
  | ask q next ih => exact (ih _ _).trans (rest_suffix q lines)

end BeanGen.Conflict.Terminal
