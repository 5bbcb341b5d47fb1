import BeanGen.Proofs.Text.Runs
import BeanGen.Schema.Note
import Mathlib.Data.List.Infix

/-!
# Comments on one line

The comment that notes make is the text of all their entries on one line: its words are one space
apart, and a backslash parts the two characters of each end of a block comment. So no comment ends
early, wherever the two characters come from, and a line made of such a line is that line.
-/

namespace BeanGen

namespace Text

def commentEnd : List Char :=
  ['*', '/']

/-- The end of a block comment with its characters parted. -/
def partedEnd : List Char :=
  ['*', '\\', '/']

/-- The second text is the first with every end of a comment parted, and nothing else changed. -/
def PartsEnds (cs ds : List Char) : Prop :=
  ∃ pieces, (∀ piece ∈ pieces, ¬ commentEnd <:+: piece) ∧ commentEnd.intercalate pieces = cs ∧
    partedEnd.intercalate pieces = ds

/-- What is blank are single spaces between other characters. -/
structure SinglySpaced (cs : List Char) : Prop where
  blank : ∀ c ∈ cs, isBlank c = true → c = ' '
  single : ¬ [' ', ' '] <:+: cs
  head : cs.head? ≠ some ' '
  last : cs.getLast? ≠ some ' '

/-- The text on one line as a block comment can hold it. -/
structure CommentLine (text line : String) : Prop where
  words : ∃ words, Holds isBlank words text.toList ∧
    PartsEnds ([' '].intercalate words) line.toList
  spaced : SinglySpaced line.toList
  unended : ¬ commentEnd <:+: line.toList
  settled : oneLine line = line

theorem pair_infix_cons_iff {a b c : Char} {cs : List Char} :
    [a, b] <:+: c :: cs ↔ (c = a ∧ cs.head? = some b) ∨ [a, b] <:+: cs := by
  rw [List.infix_cons_iff, List.cons_prefix_cons]
  cases cs with
  | nil => simp
  | cons d cs => simp [@eq_comm _ a, @eq_comm _ b]

/-! ## The ends of comments -/

section Shield

variable {cs : List Char}

theorem head?_shieldComment (cs : List Char) : (shieldComment cs).head? = cs.head? := by
  fun_cases shieldComment cs <;> rfl

theorem shieldComment_cons {c : Char} (h : ¬ (c = '*' ∧ cs.head? = some '/')) :
    shieldComment (c :: cs) = c :: shieldComment cs := by
  rw [shieldComment]
  rintro later rfl rfl
  exact h ⟨rfl, rfl⟩

theorem forall_mem_shieldComment {p : Char → Prop} (hBackslash : p '\\') (h : ∀ c ∈ cs, p c) :
    ∀ d ∈ shieldComment cs, p d := by
  fun_induction shieldComment cs with
  | case1 rest ih =>
    simp only [List.forall_mem_cons] at h ⊢
    exact ⟨h.1, hBackslash, h.2.1, ih h.2.2⟩
  | case2 c rest _ ih =>
    simp only [List.forall_mem_cons] at h ⊢
    exact ⟨h.1, ih h.2⟩
  | case3 => exact h

theorem not_commentEnd_infix_shieldComment (cs : List Char) :
    ¬ commentEnd <:+: shieldComment cs := by
  fun_induction shieldComment cs with
  | case1 rest ih => simpa [commentEnd, pair_infix_cons_iff] using ih
  | case2 c rest hEnd ih =>
    rw [commentEnd, pair_infix_cons_iff, head?_shieldComment]
    rintro (⟨rfl, hHead⟩ | hRest)
    · obtain ⟨later, rfl⟩ := List.head?_eq_some_iff.mp hHead
      exact hEnd later rfl rfl
    · exact ih hRest
  | case3 => simp [commentEnd]

theorem shieldComment_eq_self (h : ¬ commentEnd <:+: cs) : shieldComment cs = cs := by
  fun_induction shieldComment cs with
  | case1 rest ih => exact absurd (List.prefix_append commentEnd rest).isInfix h
  | case2 c rest _ ih => rw [ih fun hRest => h (List.infix_cons hRest)]
  | case3 => rfl

theorem intercalate_cons_head {sep piece : List Char} {pieces : List (List Char)} (c : Char) :
    sep.intercalate ((c :: piece) :: pieces) = c :: sep.intercalate (piece :: pieces) := by
  cases pieces <;> simp [List.intercalate]

theorem partsEnds_shieldComment (cs : List Char) : PartsEnds cs (shieldComment cs) := by
  suffices hPieces : ∃ piece pieces, (∀ p ∈ piece :: pieces, ¬ commentEnd <:+: p) ∧
      commentEnd.intercalate (piece :: pieces) = cs ∧
      partedEnd.intercalate (piece :: pieces) = shieldComment cs by
    obtain ⟨piece, pieces, h⟩ := hPieces
    exact ⟨piece :: pieces, h⟩
  fun_induction shieldComment cs with
  | case1 rest ih =>
    obtain ⟨piece, pieces, hFree, hRest, hShielded⟩ := ih
    refine ⟨[], piece :: pieces, List.forall_mem_cons.mpr ⟨by simp [commentEnd], hFree⟩, ?_, ?_⟩
    · rw [← hRest]
      rfl
    · rw [← hShielded]
      rfl
  | case2 c rest hEnd ih =>
    obtain ⟨piece, pieces, hFree, hRest, hShielded⟩ := ih
    obtain ⟨hPiece, hPieces⟩ := List.forall_mem_cons.mp hFree
    refine ⟨c :: piece, pieces, List.forall_mem_cons.mpr ⟨?_, hPieces⟩, ?_, ?_⟩
    · rw [commentEnd, pair_infix_cons_iff]
      rintro (⟨rfl, hHead⟩ | hInner)
      · -- The slash would be the first character of what follows the star.
        obtain ⟨later, rfl⟩ := List.head?_eq_some_iff.mp hHead
        rw [intercalate_cons_head] at hRest
        exact hEnd _ rfl hRest.symm
      · exact hPiece hInner
    · rw [intercalate_cons_head, hRest]
    · rw [intercalate_cons_head, hShielded]
  | case3 => exact ⟨[], [], by simp [commentEnd], rfl, rfl⟩

/-- No end of a comment reaches over a space. -/
theorem shieldComment_append_space (cs ds : List Char) :
    shieldComment (cs ++ ' ' :: ds) = shieldComment cs ++ ' ' :: shieldComment ds := by
  fun_induction shieldComment cs with
  | case1 rest ih => simp [shieldComment, ih]
  | case2 c rest hEnd ih =>
    rw [List.cons_append, shieldComment_cons, ih, List.cons_append]
    rintro ⟨rfl, hHead⟩
    cases rest with
    | nil => simp at hHead
    | cons d rest => exact hEnd rest rfl (by simpa using hHead)
  | case3 => simp [shieldComment]

theorem shieldComment_intercalate (words : List (List Char)) :
    shieldComment ([' '].intercalate words) = [' '].intercalate (words.map shieldComment) := by
  induction words with
  | nil => rfl
  | cons word words ih =>
    cases words with
    | nil => simp
    | cons next later =>
      rw [List.intercalate_cons_cons, List.append_assoc, List.singleton_append,
        shieldComment_append_space, ih]
      simp only [List.map_cons, List.intercalate_cons_cons, List.append_assoc,
        List.singleton_append]

end Shield

/-! ## Words one space apart -/

section Words

variable {word cs : List Char} {words : List (List Char)}

theorem AreTokens.map_shieldComment (h : AreTokens isBlank words) :
    AreTokens isBlank (words.map shieldComment) := by
  refine List.forall_mem_map.mpr fun word hWord => ?_
  obtain ⟨hSome, hChars⟩ := h word hWord
  refine ⟨fun hNone => hSome ?_, forall_mem_shieldComment (by decide) hChars⟩
  rw [← List.head?_eq_none_iff, ← head?_shieldComment, hNone]
  rfl

theorem ne_space {c : Char} (h : isBlank c = false) : c ≠ ' ' := by
  rintro rfl
  cases h

theorem not_spaces_infix_append (hWord : ∀ c ∈ word, isBlank c = false)
    (h : ¬ [' ', ' '] <:+: cs) : ¬ [' ', ' '] <:+: word ++ cs := by
  induction word with
  | nil => exact h
  | cons c word ih =>
    obtain ⟨hHead, hTail⟩ := List.forall_mem_cons.mp hWord
    rw [List.cons_append, pair_infix_cons_iff]
    rintro (⟨hSpace, -⟩ | hRest)
    · exact ne_space hHead hSpace
    · exact ih hTail hRest

theorem singlySpaced_word (hWord : ∀ c ∈ word, isBlank c = false) : SinglySpaced word where
  blank c hc hBlank := by
    rw [hWord c hc] at hBlank
    cases hBlank
  single := by
    have hEmpty : ¬ [' ', ' '] <:+: ([] : List Char) := by simp
    simpa using not_spaces_infix_append hWord hEmpty
  head hSpace := ne_space (hWord _ (List.mem_of_mem_head? hSpace)) rfl
  last hSpace := ne_space (hWord _ (List.mem_of_mem_getLast? hSpace)) rfl

theorem SinglySpaced.word_append (h : SinglySpaced cs) (hSome : cs ≠ []) (hWordSome : word ≠ [])
    (hWord : ∀ c ∈ word, isBlank c = false) : SinglySpaced (word ++ ' ' :: cs) where
  blank c hc hBlank := by
    rcases List.mem_append.mp hc with hInWord | hAfter
    · exact (singlySpaced_word hWord).blank c hInWord hBlank
    · rcases List.mem_cons.mp hAfter with rfl | hIn
      · rfl
      · exact h.blank c hIn hBlank
  single := by
    refine not_spaces_infix_append hWord ?_
    rw [pair_infix_cons_iff]
    rintro (⟨-, hHead⟩ | hRest)
    · exact h.head hHead
    · exact h.single hRest
  head := by
    rw [List.head?_append_of_ne_nil _ hWordSome]
    exact (singlySpaced_word hWord).head
  last := by
    rw [List.getLast?_append_of_ne_nil _ (by simp), List.getLast?_cons_of_ne_nil hSome]
    exact h.last

theorem intercalate_ne_nil {sep next : List Char} (h : next ≠ []) (later : List (List Char)) :
    sep.intercalate (next :: later) ≠ [] := by
  cases later <;> simp [List.intercalate, h]

theorem AreTokens.singlySpaced (h : AreTokens isBlank words) :
    SinglySpaced ([' '].intercalate words) := by
  induction words with
  | nil => exact singlySpaced_word (by simp)
  | cons word words ih =>
    obtain ⟨⟨hSome, hChars⟩, hWords⟩ := List.forall_mem_cons.mp h
    cases words with
    | nil => simpa using singlySpaced_word hChars
    | cons next later =>
      rw [List.intercalate_cons_cons, List.append_assoc]
      have hNext := (hWords next List.mem_cons_self).1
      exact (ih hWords).word_append (intercalate_ne_nil hNext later) hSome hChars

end Words

/-! ## Lines -/

theorem toList_oneLine (text : String) :
    (oneLine text).toList = [' '].intercalate ((runs isBlank text.toList).map shieldComment) := by
  rw [← shieldComment_intercalate, oneLine, String.toList_ofList]
  rfl

theorem runs_oneLine (text : String) :
    runs isBlank (oneLine text).toList = (runs isBlank text.toList).map shieldComment := by
  rw [toList_oneLine]
  exact (areTokens_runs isBlank _).map_shieldComment.runs_intercalate (by decide)

theorem not_commentEnd_infix_oneLine (text : String) :
    ¬ commentEnd <:+: (oneLine text).toList := by
  rw [toList_oneLine, ← shieldComment_intercalate]
  exact not_commentEnd_infix_shieldComment _

theorem oneLine_oneLine (text : String) : oneLine (oneLine text) = oneLine text := by
  have hLine : [' '].intercalate (runs isBlank (oneLine text).toList) = (oneLine text).toList := by
    rw [runs_oneLine, toList_oneLine]
  calc
    oneLine (oneLine text) =
        String.ofList (shieldComment ([' '].intercalate (runs isBlank (oneLine text).toList))) := rfl
    _ = String.ofList (oneLine text).toList := by
      rw [hLine, shieldComment_eq_self (not_commentEnd_infix_oneLine text)]
    _ = oneLine text := String.ofList_toList

theorem commentLine_oneLine (text : String) : CommentLine text (oneLine text) where
  words := by
    refine ⟨runs isBlank text.toList, runs_eq_iff.mp rfl, ?_⟩
    rw [toList_oneLine, ← shieldComment_intercalate]
    exact partsEnds_shieldComment _
  spaced := by
    rw [toList_oneLine]
    exact (areTokens_runs isBlank _).map_shieldComment.singlySpaced
  unended := not_commentEnd_infix_oneLine text
  settled := oneLine_oneLine text

end Text

open Text

/-- Only no notes at all make no comment. Otherwise the comment depends on nothing but what the
entries with content hold together, and it is that text on one line. -/
theorem comment_of_notes (notes : List SchemaNote) :
    (∀ text, CommentLine text (oneLine text)) ∧
    (commentOf? notes = none ↔ notes = []) ∧
    (∀ comment, commentOf? notes = some comment → CommentLine
      (String.join ((notes.flatMap (·.entries)).filterMap (·.content))) comment) ∧
    ∀ others, (others = [] ↔ notes = []) →
      String.join ((others.flatMap (·.entries)).filterMap (·.content)) =
        String.join ((notes.flatMap (·.entries)).filterMap (·.content)) →
      commentOf? others = commentOf? notes := by
  refine ⟨commentLine_oneLine, ?_, ?_, ?_⟩
  · rw [commentOf?]
    cases notes <;> simp
  · intro comment hComment
    rw [commentOf?] at hComment
    split at hComment
    · cases hComment
    · exact Option.some.inj hComment ▸ commentLine_oneLine _
  · intro others hEmpty hSame
    have hText : noteText others = noteText notes := hSame
    have hNone : others.isEmpty = notes.isEmpty := by
      rw [Bool.eq_iff_iff, List.isEmpty_iff, List.isEmpty_iff, hEmpty]
    rw [commentOf?, commentOf?, hNone, hText]

example : commentOf? [⟨[⟨some " end *", none⟩, ⟨none, none⟩]⟩, ⟨[⟨some "*/\t now", none⟩]⟩] =
    some "end **\\/ now" := by
  cbv

end BeanGen
