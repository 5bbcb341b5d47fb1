import BeanGen.Proofs.Conflict.Registry
import BeanGen.Proofs.Text.Stretch

/-!
# Identifiers in a text

Identifiers may be written with any separators between and around them, and cutting the text gives
them back. What it gives for any text at all are the stretches between the separators.
-/

namespace BeanGen.Conflict

/-- Tokens as a text: each with what stands in front of it, and what stands behind the last. -/
def joined (pieces : List (String × String)) (after : String) : String :=
  pieces.foldr (fun p rest => p.1 ++ (p.2 ++ rest)) after

/-- The tokens hold something, but no separator; separators are all that stands in front of them,
and there is at least one between two tokens; and separators are all that stands behind the last. -/
structure Separated (pieces : List (String × String)) (after : String) : Prop where
  tokens : ∀ p ∈ pieces, p.2 ≠ "" ∧ ∀ c ∈ p.2.toList, isSeparator c = false
  gaps : ∀ p ∈ pieces, ∀ c ∈ p.1.toList, isSeparator c = true
  between : ∀ p ∈ pieces.tail, p.1 ≠ ""
  after : ∀ c ∈ after.toList, isSeparator c = true

namespace Separated

variable {pieces : List (String × String)} {p : String × String} {after : String}

theorem tail (h : Separated (p :: pieces) after) : Separated pieces after where
  tokens q hq := h.tokens q (List.mem_cons_of_mem p hq)
  gaps q hq := h.gaps q (List.mem_cons_of_mem p hq)
  between q hq := h.between q (List.mem_of_mem_tail hq)
  after := h.after

/-- What follows a token starts with a separator, if there is anything. -/
theorem head_joined_tail (h : Separated (p :: pieces) after) :
    ∀ c, (joined pieces after).toList.head? = some c → isSeparator c = true := by
  intro c hc
  cases pieces with
  | nil => exact h.after c (List.mem_of_mem_head? hc)
  | cons q pieces =>
    have hGap : q.1.toList ≠ [] := by
      simpa using h.between q List.mem_cons_self
    rw [joined, List.foldr_cons, String.toList_append, List.head?_append_of_ne_nil _ hGap] at hc
    exact h.gaps q (List.mem_cons_of_mem p List.mem_cons_self) c (List.mem_of_mem_head? hc)

theorem holds (h : Separated pieces after) :
    Text.Holds isSeparator ((pieces.map (·.2)).map String.toList) (joined pieces after).toList := by
  induction pieces with
  | nil => exact .nil h.after
  | cons p pieces ih =>
    obtain ⟨hToken, hChars⟩ := h.tokens p List.mem_cons_self
    rw [joined, List.foldr_cons, String.toList_append, String.toList_append]
    exact .cons (h.gaps p List.mem_cons_self) (by simpa using hToken) hChars h.head_joined_tail
      (ih h.tail)

end Separated

theorem splitIdentifiers_joined {pieces : List (String × String)} {after : String}
    (h : Separated pieces after) : splitIdentifiers (joined pieces after) = pieces.map (·.2) :=
  Registry.splitIdentifiers_of_holds h.holds

/-! ## Stretches -/

theorem exists_stretches_splitIdentifiers (text : String) :
    ∃ spans, Text.AreStretches isSeparator text.toList spans ∧
      splitIdentifiers text = spans.map fun p => String.ofList (text.toList.extract p.1 p.2) := by
  obtain ⟨spans, hSpans, hTokens⟩ := (Text.runs_eq_iff.mp (Eq.refl _)).exists_stretches
  refine ⟨spans, hSpans, ?_⟩
  rw [splitIdentifiers, hTokens, List.map_map]
  rfl

/-- Tokens that are joined with any separators between and around them are given back in order. What
any text gives are its stretches between separators, from left to right. -/
theorem splits_into_stretches :
    (∀ pieces after, Separated pieces after →
      splitIdentifiers (joined pieces after) = pieces.map (·.2)) ∧
    ∀ text : String, ∃ spans : List (Nat × Nat),
      spans.Pairwise (fun p q => p.2 < q.1) ∧
      (∀ i j, (i, j) ∈ spans ↔ Text.IsStretch isSeparator text.toList i j) ∧
      splitIdentifiers text = spans.map fun p => String.ofList (text.toList.extract p.1 p.2) := by
  refine ⟨fun _ _ => splitIdentifiers_joined, fun text => ?_⟩
  obtain ⟨spans, hSpans, hTokens⟩ := exists_stretches_splitIdentifiers text
  exact ⟨spans, hSpans.ascending, hSpans.mem_iff, hTokens⟩

/-- Two identifiers with a line break and an ideographic space between them, commas around them and
no separator at the end. -/
theorem splits_into_stretches_mixed :
    Separated [(" ,\t", "pkg.Good"), (",\n\u3000", "pkg::Other")] "" ∧
      splitIdentifiers " ,\tpkg.Good,\n\u3000pkg::Other" = ["pkg.Good", "pkg::Other"] := by
  have hSeparated : Separated [(" ,\t", "pkg.Good"), (",\n\u3000", "pkg::Other")] "" :=
    { tokens := by simp [isSeparator, Text.isBlank]
      gaps := by simp [isSeparator, Text.isBlank]
      between := by simp
      after := by simp }
  exact ⟨hSeparated, splits_into_stretches.1 _ _ hSeparated⟩

end BeanGen.Conflict
