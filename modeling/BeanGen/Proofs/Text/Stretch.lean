import BeanGen.Proofs.Text.Runs

/-!
# Stretches between gaps

A stretch of a text is a range of positions without a gap that cannot be made longer at either end.
The tokens of a text are its stretches from left to right: in front of a token the stretches of the
rest move by what precedes it, and nothing else becomes one.
-/

namespace BeanGen.Text

/-- No position from `i` up to but without `j` is a gap, but whatever stands right before and right
behind them is one. -/
structure IsStretch (gap : Char → Bool) (cs : List Char) (i j : Nat) : Prop where
  nonempty : i < j
  inside : j ≤ cs.length
  free : ∀ n c, i ≤ n → n < j → cs[n]? = some c → gap c = false
  before : ∀ n c, n + 1 = i → cs[n]? = some c → gap c = true
  behind : ∀ c, cs[j]? = some c → gap c = true

namespace IsStretch

variable {gap : Char → Bool} {cs blank token rest : List Char} {i j : Nat}

theorem getElem_free (h : IsStretch gap cs i j) {n : Nat} (hi : i ≤ n) (hj : n < j) :
    ∃ c, cs[n]? = some c ∧ gap c = false := by
  have hLength : n < cs.length := Nat.lt_of_lt_of_le hj h.inside
  have hc : cs[n]? = some cs[n] := List.getElem?_eq_getElem hLength
  exact ⟨cs[n], hc, h.free n cs[n] hi hj hc⟩

theorem pos_of_head (h : IsStretch gap cs i j) (hHead : ∀ c, cs.head? = some c → gap c = true) :
    0 < i := by
  refine Nat.pos_of_ne_zero ?_
  rintro rfl
  obtain ⟨c, hc, hFree⟩ := h.getElem_free (Nat.le_refl 0) h.nonempty
  rw [← List.head?_eq_getElem?] at hc
  exact absurd (hHead c hc) (by simp [hFree])

/-- Behind a text that ends with a gap, or that the stretch does not touch, stretches move. -/
theorem append_left {before : List Char} (h : IsStretch gap cs i j)
    (hTouch : i = 0 → ∀ c, before.getLast? = some c → gap c = true) :
    IsStretch gap (before ++ cs) (before.length + i) (before.length + j) where
  nonempty := Nat.add_lt_add_left h.nonempty _
  inside := by
    rw [List.length_append]
    exact Nat.add_le_add_left h.inside _
  free n c hi hj hc := by
    rw [List.getElem?_append_right (by omega)] at hc
    exact h.free (n - before.length) c (by omega) (by omega) hc
  before n c hn hc := by
    by_cases hLeft : n < before.length
    · rw [List.getElem?_append_left hLeft] at hc
      refine hTouch (by omega) c ?_
      rwa [List.getLast?_eq_getElem?, show before.length - 1 = n by omega]
    · rw [List.getElem?_append_right (by omega)] at hc
      exact h.before (n - before.length) c (by omega) hc
  behind c hc := by
    rw [List.getElem?_append_right (by omega), Nat.add_sub_cancel_left] at hc
    exact h.behind c hc

theorem of_append {before : List Char}
    (h : IsStretch gap (before ++ cs) (before.length + i) (before.length + j)) :
    IsStretch gap cs i j where
  nonempty := Nat.lt_of_add_lt_add_left h.nonempty
  inside := by
    have hInside := h.inside
    rw [List.length_append] at hInside
    exact Nat.le_of_add_le_add_left hInside
  free n c hi hj hc := by
    refine h.free (before.length + n) c (by omega) (by omega) ?_
    rwa [List.getElem?_append_right (by omega), Nat.add_sub_cancel_left]
  before n c hn hc := by
    refine h.before (before.length + n) c (by omega) ?_
    rwa [List.getElem?_append_right (by omega), Nat.add_sub_cancel_left]
  behind c hc := by
    refine h.behind c ?_
    rwa [List.getElem?_append_right (by omega), Nat.add_sub_cancel_left]

theorem of_token (hToken : token ≠ []) (hChars : ∀ c ∈ token, gap c = false)
    (hEnd : ∀ c, rest.head? = some c → gap c = true) :
    IsStretch gap (token ++ rest) 0 token.length where
  nonempty := List.length_pos_iff.mpr hToken
  inside := by simp
  free n c _ hj hc := by
    rw [List.getElem?_append_left hj] at hc
    exact hChars c (List.mem_of_getElem? hc)
  before n c hn _ := absurd hn (Nat.succ_ne_zero n)
  behind c hc := by
    rw [List.getElem?_append_right (Nat.le_refl _), Nat.sub_self, ← List.head?_eq_getElem?] at hc
    exact hEnd c hc

theorem le_of_gaps (h : IsStretch gap (blank ++ cs) i j) (hBlank : ∀ c ∈ blank, gap c = true) :
    blank.length ≤ i := by
  refine Nat.le_of_not_lt fun hi => ?_
  obtain ⟨c, hc, hFree⟩ := h.getElem_free (Nat.le_refl i) h.nonempty
  rw [List.getElem?_append_left hi] at hc
  exact absurd (hBlank c (List.mem_of_getElem? hc)) (by simp [hFree])

/-- A stretch that touches a token at the start is all of it. -/
theorem eq_of_token (h : IsStretch gap (token ++ rest) i j) (hChars : ∀ c ∈ token, gap c = false)
    (hEnd : ∀ c, rest.head? = some c → gap c = true) (hi : i < token.length) :
    i = 0 ∧ j = token.length := by
  have hInToken : ∀ n, n < token.length → ∃ c, (token ++ rest)[n]? = some c ∧ gap c = false :=
    fun n hn => ⟨token[n], by rw [List.getElem?_append_left hn, List.getElem?_eq_getElem hn],
      hChars _ (List.getElem_mem hn)⟩
  constructor
  · refine Nat.eq_zero_of_not_pos fun hPos => ?_
    obtain ⟨c, hc, hFree⟩ := hInToken (i - 1) (by omega)
    exact absurd (h.before (i - 1) c (by omega) hc) (by simp [hFree])
  · rcases Nat.lt_trichotomy j token.length with hShort | hEq | hLong
    · obtain ⟨c, hc, hFree⟩ := hInToken j hShort
      exact absurd (h.behind c hc) (by simp [hFree])
    · exact hEq
    · obtain ⟨c, hc, hFree⟩ := h.getElem_free (Nat.le_of_lt hi) hLong
      rw [List.getElem?_append_right (Nat.le_refl _), Nat.sub_self, ← List.head?_eq_getElem?] at hc
      exact absurd (hEnd c hc) (by simp [hFree])

end IsStretch

/-- All stretches of the text, from left to right and apart from one another. -/
structure AreStretches (gap : Char → Bool) (cs : List Char) (spans : List (Nat × Nat)) : Prop where
  ascending : spans.Pairwise fun p q => p.2 < q.1
  mem_iff : ∀ i j, (i, j) ∈ spans ↔ IsStretch gap cs i j

namespace AreStretches

variable {gap : Char → Bool} {blank token rest : List Char} {spans : List (Nat × Nat)}

theorem nil (hBlank : ∀ c ∈ blank, gap c = true) : AreStretches gap blank [] where
  ascending := .nil
  mem_iff i j := by
    refine iff_of_false List.not_mem_nil fun h => ?_
    rw [← List.append_nil blank] at h
    have hStart := h.le_of_gaps hBlank
    have hInside := h.inside
    rw [List.append_nil] at hInside
    exact absurd h.nonempty (by omega)

def shift (n : Nat) (p : Nat × Nat) : Nat × Nat :=
  (n + p.1, n + p.2)

/-- The first token is the first stretch, and those of what follows it move. -/
theorem cons (h : AreStretches gap rest spans) (hBlank : ∀ c ∈ blank, gap c = true)
    (hToken : token ≠ []) (hChars : ∀ c ∈ token, gap c = false)
    (hEnd : ∀ c, rest.head? = some c → gap c = true) :
    AreStretches gap (blank ++ (token ++ rest))
      ((blank.length, blank.length + token.length) ::
        spans.map (shift (blank.length + token.length))) where
  ascending := by
    refine List.pairwise_cons.mpr ⟨List.forall_mem_map.mpr fun p hp => ?_, ?_⟩
    · exact Nat.lt_add_of_pos_right (((h.mem_iff p.1 p.2).mp hp).pos_of_head hEnd)
    · exact List.pairwise_map.mpr (h.ascending.imp (Nat.add_lt_add_left · _))
  mem_iff i j := by
    rw [List.mem_cons, List.mem_map]
    constructor
    · rintro (hFirst | ⟨⟨i', j'⟩, hMem, hLater⟩)
      · cases hFirst
        refine (IsStretch.of_token hToken hChars hEnd).append_left fun _ c hc => ?_
        exact hBlank c (List.mem_of_getLast? hc)
      · cases hLater
        have hStretch := (h.mem_iff i' j').mp hMem
        rw [← List.append_assoc, ← List.length_append]
        refine hStretch.append_left fun hZero => ?_
        exact absurd (hStretch.pos_of_head hEnd) (by simp [hZero])
    · intro hStretch
      -- It starts behind the gaps, so it is one of the token and the rest: either it touches the
      -- token, and then it is all of it, or it starts behind the token too.
      obtain ⟨i, rfl⟩ := Nat.exists_eq_add_of_le (hStretch.le_of_gaps hBlank)
      obtain ⟨j, rfl⟩ := Nat.exists_eq_add_of_le
        (Nat.le_trans (Nat.le_add_right _ i) (Nat.le_of_lt hStretch.nonempty))
      replace hStretch := hStretch.of_append
      rcases Nat.lt_or_ge i token.length with hTouch | hLater
      · obtain ⟨rfl, rfl⟩ := hStretch.eq_of_token hChars hEnd hTouch
        exact .inl rfl
      · obtain ⟨i, rfl⟩ := Nat.exists_eq_add_of_le hLater
        obtain ⟨j, rfl⟩ := Nat.exists_eq_add_of_le
          (Nat.le_trans hLater (Nat.le_of_lt hStretch.nonempty))
        refine .inr ⟨(i, j), (h.mem_iff i j).mpr hStretch.of_append, ?_⟩
        rw [shift, Nat.add_assoc, Nat.add_assoc]

end AreStretches

theorem extract_append_add (before cs : List Char) (i j : Nat) :
    (before ++ cs).extract (before.length + i) (before.length + j) = cs.extract i j := by
  rw [List.extract_eq_take_drop, List.extract_eq_take_drop, List.drop_length_add_append,
    Nat.add_sub_add_left]

/-- The tokens that a text holds are what stands in its stretches. -/
theorem Holds.exists_stretches {gap : Char → Bool} {tokens : List (List Char)} {cs : List Char}
    (h : Holds gap tokens cs) :
    ∃ spans, AreStretches gap cs spans ∧ tokens = spans.map fun p => cs.extract p.1 p.2 := by
  induction h with
  | nil hBlank => exact ⟨[], .nil hBlank, rfl⟩
  | @cons blank token rest tokens hBlank hToken hChars hEnd _ ih =>
    obtain ⟨spans, hSpans, rfl⟩ := ih
    refine ⟨_, hSpans.cons hBlank hToken hChars hEnd, ?_⟩
    rw [List.map_cons, List.map_map]
    have hFirst : (blank ++ (token ++ rest)).extract blank.length (blank.length + token.length) =
        token := by
      simp
    have hLater : ∀ p ∈ spans, rest.extract p.1 p.2 =
        (blank ++ (token ++ rest)).extract (blank.length + token.length + p.1)
          (blank.length + token.length + p.2) := by
      intro p _
      rw [← List.append_assoc, ← List.length_append, extract_append_add]
    rw [hFirst, List.map_congr_left hLater]
    rfl

end BeanGen.Text
