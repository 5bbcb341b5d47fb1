import BeanGen.Text.Basic

/-!
# Tokens of a text

A text holds tokens in order, with gaps before, between and after them. Which gaps these are does
not matter: `runs_eq_iff` says that cutting a text gives just the tokens it holds.
-/

namespace BeanGen.Text

/-- The text holds the tokens in order and otherwise gaps only, and no two tokens touch. -/
inductive Holds (gap : Char → Bool) : List (List Char) → List Char → Prop
  | nil {blank : List Char} : (∀ c ∈ blank, gap c = true) → Holds gap [] blank
  | cons {blank token rest : List Char} {tokens : List (List Char)} :
      (∀ c ∈ blank, gap c = true) → token ≠ [] → (∀ c ∈ token, gap c = false) →
      (∀ c, rest.head? = some c → gap c = true) → Holds gap tokens rest →
      Holds gap (token :: tokens) (blank ++ (token ++ rest))

section Runs

variable {gap : Char → Bool}

theorem runs_gap_append {blank : List Char} (h : ∀ c ∈ blank, gap c = true) (cs : List Char) :
    runs gap (blank ++ cs) = runs gap cs := by
  induction blank with
  | nil => rfl
  | cons c blank ih =>
    have hRest := ih fun d hd => h d (List.mem_cons_of_mem c hd)
    rw [List.cons_append, runs, segments, if_pos (h c List.mem_cons_self)]
    simpa [runs] using hRest

theorem segments_token_append {token : List Char} (h : ∀ c ∈ token, gap c = false)
    (cs : List Char) :
    segments gap (token ++ cs) = (segments gap cs).modifyHead (token ++ ·) := by
  induction token with
  | nil => cases hSegments : segments gap cs <;> simp [hSegments]
  | cons c token ih =>
    rw [List.cons_append, segments, if_neg (by simp [h c List.mem_cons_self]),
      ih fun d hd => h d (List.mem_cons_of_mem c hd)]
    cases segments gap cs <;> rfl

theorem segments_eq_splitOn (sep : Char) (cs : List Char) :
    segments (· == sep) cs = cs.splitOn sep := by
  induction cs with
  | nil => rfl
  | cons c cs ih =>
    rw [segments, ih, List.splitOn, List.splitOn, List.splitOnP_cons_eq_if_modifyHead]

theorem exists_segments_eq {cs : List Char} (h : ∀ c, cs.head? = some c → gap c = true) :
    ∃ later, segments gap cs = [] :: later := by
  cases cs with
  | nil => exact ⟨[], rfl⟩
  | cons c cs => exact ⟨segments gap cs, by rw [segments, if_pos (h c rfl)]⟩

theorem segments_append_gap {c : Char} (h : gap c = true) (as bs : List Char) :
    segments gap (as ++ c :: bs) = segments gap as ++ segments gap bs := by
  induction as with
  | nil => simp [segments, h]
  | cons a as ih =>
    rw [List.cons_append, segments, segments, ih]
    split
    · rfl
    · cases hSegments : segments gap as with
      | nil => exact absurd hSegments (segments_ne_nil gap as)
      | cons s ss => rfl

theorem segments_free {cs : List Char} (h : ∀ c ∈ cs, gap c = false) : segments gap cs = [cs] := by
  have hSegments := segments_token_append h []
  rwa [List.append_nil, segments, List.modifyHead_cons, List.append_nil] at hSegments

theorem segments_flatMap_ended {sep : Char} (hSep : gap sep = true) (pieces : List (List Char)) :
    segments gap (pieces.flatMap (· ++ [sep])) = pieces.flatMap (segments gap) ++ [[]] := by
  induction pieces with
  | nil => rfl
  | cons piece pieces ih =>
    rw [List.flatMap_cons, List.append_assoc, List.singleton_append, segments_append_gap hSep, ih,
      List.flatMap_cons, List.append_assoc]

theorem runs_append_gap {c : Char} (h : gap c = true) (as bs : List Char) :
    runs gap (as ++ c :: bs) = runs gap as ++ runs gap bs := by
  rw [runs, segments_append_gap h, List.filter_append]
  rfl

/-- A piece of a text is part of it and free of gaps. -/
theorem of_mem_segments {cs s : List Char} (h : s ∈ segments gap cs) :
    s.Sublist cs ∧ ∀ c ∈ s, gap c = false := by
  induction cs generalizing s with
  | nil => simp_all [segments]
  | cons c cs ih =>
    rw [segments] at h
    split at h
    · rcases List.mem_cons.mp h with rfl | hRest
      · simp
      · exact ⟨(ih hRest).1.cons c, (ih hRest).2⟩
    · rename_i hc
      cases hSegments : segments gap cs with
      | nil => exact absurd hSegments (segments_ne_nil gap cs)
      | cons t ts =>
        rw [hSegments] at h ih
        rcases List.mem_cons.mp h with rfl | hRest
        · obtain ⟨hSub, hFree⟩ := ih List.mem_cons_self
          exact ⟨hSub.cons_cons c, List.forall_mem_cons.mpr ⟨Bool.eq_false_iff.mpr hc, hFree⟩⟩
        · obtain ⟨hSub, hFree⟩ := ih (List.mem_cons_of_mem t hRest)
          exact ⟨hSub.cons c, hFree⟩

/-- Pieces that are each ended by a gap are what the text is cut into, just if none of them has a gap
of its own. -/
theorem segments_flatMap_ended_eq_iff {sep : Char} (hSep : gap sep = true)
    {pieces : List (List Char)} :
    segments gap (pieces.flatMap (· ++ [sep])) = pieces ++ [[]] ↔
      ∀ piece ∈ pieces, ∀ c ∈ piece, gap c = false := by
  rw [segments_flatMap_ended hSep, List.append_left_inj]
  constructor
  · intro hSegments piece hPiece
    -- Every piece comes back, so it is a segment of something.
    rw [← hSegments] at hPiece
    obtain ⟨_, -, hSegment⟩ := List.mem_flatMap.mp hPiece
    exact (of_mem_segments hSegment).2
  · intro hFree
    have hAlone : ∀ piece ∈ pieces, segments gap piece = [piece] :=
      fun piece hPiece => segments_free (hFree piece hPiece)
    rw [List.flatMap_def, List.map_congr_left hAlone, ← List.flatMap_def, List.flatMap_singleton']

theorem of_mem_runs {cs s : List Char} (h : s ∈ runs gap cs) :
    s.Sublist cs ∧ ∀ c ∈ s, gap c = false :=
  of_mem_segments (List.mem_filter.mp h).1

theorem runs_token_append {token cs : List Char} (hToken : token ≠ [])
    (hChars : ∀ c ∈ token, gap c = false) (hEnd : ∀ c, cs.head? = some c → gap c = true) :
    runs gap (token ++ cs) = token :: runs gap cs := by
  obtain ⟨later, hLater⟩ := exists_segments_eq hEnd
  rw [runs, runs, segments_token_append hChars, hLater]
  simp [hToken]

/-- Every one of them holds something, and no gap. -/
def AreTokens (gap : Char → Bool) (tokens : List (List Char)) : Prop :=
  ∀ token ∈ tokens, token ≠ [] ∧ ∀ c ∈ token, gap c = false

theorem areTokens_runs (gap : Char → Bool) (cs : List Char) : AreTokens gap (runs gap cs) :=
  fun _ h => ⟨by simpa using (List.mem_filter.mp h).2, (of_mem_runs h).2⟩

theorem runs_token {token : List Char} (hToken : token ≠ []) (hChars : ∀ c ∈ token, gap c = false) :
    runs gap token = [token] := by
  rw [runs, segments_free hChars]
  simp [hToken]

theorem AreTokens.runs_intercalate {tokens : List (List Char)} (h : AreTokens gap tokens)
    {sep : Char} (hSep : gap sep = true) : runs gap ([sep].intercalate tokens) = tokens := by
  induction tokens with
  | nil => simp [runs, segments]
  | cons token tokens ih =>
    obtain ⟨⟨hToken, hChars⟩, hTokens⟩ := List.forall_mem_cons.mp h
    cases tokens with
    | nil => rw [List.intercalate_singleton, runs_token hToken hChars]
    | cons next later =>
      rw [List.intercalate_cons_cons, List.append_assoc, List.singleton_append,
        runs_append_gap hSep, ih hTokens, runs_token hToken hChars]
      rfl

end Runs

namespace Holds

variable {gap : Char → Bool} {tokens : List (List Char)} {cs : List Char}

theorem runs_eq (h : Holds gap tokens cs) : runs gap cs = tokens := by
  induction h with
  | nil hBlank => simpa [runs, segments] using runs_gap_append hBlank []
  | cons hBlank hToken hChars hEnd _ ih =>
    rw [runs_gap_append hBlank, runs_token_append hToken hChars hEnd, ih]

theorem cons_gap {c : Char} (h : Holds gap tokens cs) (hGap : gap c = true) :
    Holds gap tokens (c :: cs) := by
  cases h with
  | nil hBlank => exact .nil (List.forall_mem_cons.mpr ⟨hGap, hBlank⟩)
  | cons hBlank hToken hChars hEnd hRest =>
    exact .cons (List.forall_mem_cons.mpr ⟨hGap, hBlank⟩) hToken hChars hEnd hRest

/-- A character of a token either starts a token of its own or joins the token that follows. -/
theorem exists_cons_token {c : Char} (h : Holds gap tokens cs) (hChar : gap c = false) :
    ∃ longer, Holds gap longer (c :: cs) := by
  by_cases hEnd : ∀ d, cs.head? = some d → gap d = true
  · have hAlone : Holds gap ([c] :: tokens) ([] ++ ([c] ++ cs)) :=
      .cons (by simp) (by simp) (by simpa using hChar) hEnd h
    exact ⟨_, hAlone⟩
  · cases h with
    | nil hBlank =>
      exact absurd (fun d hd => hBlank d (List.mem_of_mem_head? hd)) hEnd
    | @cons blank token rest tokens hBlank _ hChars hRestEnd hRest =>
      cases blank with
      | nil =>
        have hJoined : Holds gap ((c :: token) :: tokens) ([] ++ ((c :: token) ++ rest)) :=
          .cons (by simp) (by simp) (List.forall_mem_cons.mpr ⟨hChar, hChars⟩) hRestEnd hRest
        exact ⟨_, hJoined⟩
      | cons d blank =>
        refine absurd (fun e he => ?_) hEnd
        cases he
        exact hBlank d List.mem_cons_self

end Holds

theorem exists_holds (gap : Char → Bool) (cs : List Char) : ∃ tokens, Holds gap tokens cs := by
  induction cs with
  | nil => exact ⟨[], .nil (by simp)⟩
  | cons c cs ih =>
    obtain ⟨tokens, hTokens⟩ := ih
    cases hGap : gap c with
    | true => exact ⟨tokens, hTokens.cons_gap hGap⟩
    | false => exact hTokens.exists_cons_token hGap

/-- Cutting a text gives the tokens it holds, whatever stands between them. -/
theorem runs_eq_iff {gap : Char → Bool} {tokens : List (List Char)} {cs : List Char} :
    runs gap cs = tokens ↔ Holds gap tokens cs := by
  constructor
  · rintro rfl
    obtain ⟨tokens, hTokens⟩ := exists_holds gap cs
    rwa [hTokens.runs_eq]
  · exact Holds.runs_eq

end BeanGen.Text
