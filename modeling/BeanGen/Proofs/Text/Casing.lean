import BeanGen.Proofs.Text.Runs
import BeanGen.Text.Casing

/-!
# Words in camel case

Between two words the letter to come is raised just if something has been written, whatever
separators stand there; within a word nothing is raised. So a text in camel case is its first word
with the others behind it, each of them capitalized. The case tables lead to no separator from
anything else, hence none is left, and a second time changes nothing.
-/

namespace BeanGen.Text

/-! ## What the case tables lead to -/

theorem ofNat_ne {n : Nat} {x : Char} (hx : x.toNat ≠ 0) (hn : n ≠ x.toNat) : Char.ofNat n ≠ x := by
  rintro rfl
  by_cases hValid : n.isValidChar
  · refine hn ?_
    rw [Char.ofNat, dif_pos hValid]
    rfl
  · refine hx ?_
    rw [Char.ofNat, dif_neg hValid]
    rfl

/-- A character that no entry of the tables leads to comes from itself only. -/
theorem not_mem_mapCase {expansions : List (Nat × List Nat)} {shifts : List CaseRun} {x c : Char}
    (hx : x.toNat ≠ 0) (hExpansions : ∀ e ∈ expansions, x.toNat ∉ e.2)
    (hShifts : ∀ r ∈ shifts,
      (r.last : Int) + r.offset < x.toNat ∨ (x.toNat : Int) < r.first + r.offset)
    (hc : c ≠ x) : x ∉ mapCase expansions shifts c := by
  rw [mapCase]
  split
  · rename_i k image hImage
    intro hMem
    obtain ⟨n, hn, hEq⟩ := List.mem_map.mp hMem
    refine ofNat_ne hx ?_ hEq
    rintro rfl
    exact hExpansions _ (List.mem_of_find?_eq_some hImage) hn
  · split
    · rename_i r hRun
      have hSpares := hShifts r (List.mem_of_find?_eq_some hRun)
      have hCovers := List.find?_some hRun
      simp only [CaseRun.covers, Bool.and_eq_true, decide_eq_true_eq] at hCovers
      rw [List.mem_singleton]
      exact (ofNat_ne hx (by omega)).symm
    · rw [List.mem_singleton]
      exact hc.symm

theorem isWordBreak_eq_false_iff {c : Char} : isWordBreak c = false ↔ c ≠ '_' ∧ c ≠ '-' := by
  simp [isWordBreak]

theorem isWordBreak_upper {c : Char} (h : isWordBreak c = false) :
    ∀ d ∈ upper c, isWordBreak d = false := by
  rw [isWordBreak_eq_false_iff] at h
  have hUnderscore : '_' ∉ upper c :=
    not_mem_mapCase (by decide) (by decide +kernel) (by decide +kernel) h.1
  have hHyphen : '-' ∉ upper c :=
    not_mem_mapCase (by decide) (by decide +kernel) (by decide +kernel) h.2
  intro d hd
  rw [isWordBreak_eq_false_iff]
  exact ⟨fun hEq => hUnderscore (hEq ▸ hd), fun hEq => hHyphen (hEq ▸ hd)⟩

/-! ## Reading on -/

section Camel

variable {cs blank token : List Char} {started : Bool}

/-- Between words, the letter to come is raised just if something has been written. -/
theorem camelFrom_gap_append (h : ∀ c ∈ blank, isWordBreak c = true) :
    camelFrom started started (blank ++ cs) = camelFrom started started cs := by
  induction blank with
  | nil => rfl
  | cons c blank ih =>
    obtain ⟨hc, hRest⟩ := List.forall_mem_cons.mp h
    rw [List.cons_append, camelFrom, if_pos hc, ih hRest]

/-- Behind a word it does not matter whether the next letter was to be raised. -/
theorem camelFrom_of_head (h : ∀ c, cs.head? = some c → isWordBreak c = true) (raise : Bool) :
    camelFrom started raise cs = camelFrom started started cs := by
  cases cs with
  | nil => rfl
  | cons c cs => rw [camelFrom, camelFrom, if_pos (h c rfl), if_pos (h c rfl)]

theorem camelFrom_within (h : ∀ c ∈ token, isWordBreak c = false) :
    camelFrom true false (token ++ cs) = token ++ camelFrom true false cs := by
  induction token with
  | nil => rfl
  | cons c token ih =>
    obtain ⟨hc, hRest⟩ := List.forall_mem_cons.mp h
    rw [List.cons_append, camelFrom, if_neg (by simp [hc]), if_neg Bool.false_ne_true, ih hRest,
      List.cons_append]

theorem camelFrom_token_append (started : Bool) (hToken : token ≠ [])
    (hChars : ∀ c ∈ token, isWordBreak c = false)
    (hEnd : ∀ c, cs.head? = some c → isWordBreak c = true) :
    camelFrom started started (token ++ cs) =
      (if started then mapFirst upper token else token) ++ camelFrom true true cs := by
  cases token with
  | nil => exact absurd rfl hToken
  | cons c token =>
    obtain ⟨hc, hRest⟩ := List.forall_mem_cons.mp hChars
    rw [List.cons_append, camelFrom, if_neg (by simp [hc]), camelFrom_within hRest,
      camelFrom_of_head hEnd]
    cases started <;> simp [mapFirst]

end Camel

theorem Holds.camelFrom_eq {tokens : List (List Char)} {cs : List Char}
    (h : Holds isWordBreak tokens cs) :
    camelFrom true true cs = tokens.flatMap (mapFirst upper) := by
  induction h with
  | @nil blank hBlank =>
    rw [← List.append_nil blank, camelFrom_gap_append hBlank]
    rfl
  | cons hBlank hToken hChars hEnd _ ih =>
    rw [camelFrom_gap_append hBlank, camelFrom_token_append _ hToken hChars hEnd, ih]
    rfl

/-- The words of a name: its segments between underscores and hyphens, but for the empty ones. -/
def words (s : String) : List String :=
  (runs isWordBreak s.toList).map String.ofList

/-- The first word as it is, and the others behind it, each capitalized. -/
def joinCapitalized : List String → String
  | [] => ""
  | word :: later => word ++ String.join (later.map capitalize)

theorem camelCase_eq (s : String) : camelCase s = joinCapitalized (words s) := by
  have hHolds := runs_eq_iff.mp (Eq.refl (runs isWordBreak s.toList))
  rw [camelCase, words]
  generalize runs isWordBreak s.toList = tokens at hHolds
  generalize s.toList = cs at hHolds
  cases hHolds with
  | nil hBlank =>
    rw [← List.append_nil cs, camelFrom_gap_append hBlank]
    rfl
  | cons hBlank hToken hChars hEnd hRest =>
    rw [camelFrom_gap_append hBlank, camelFrom_token_append _ hToken hChars hEnd, hRest.camelFrom_eq,
      List.map_cons, joinCapitalized, ← String.toList_inj]
    simp [capitalize, List.flatMap_map]

/-! ## The result -/

theorem isWordBreak_camelFrom (started raise : Bool) (cs : List Char) :
    ∀ d ∈ camelFrom started raise cs, isWordBreak d = false := by
  induction cs generalizing started raise with
  | nil => exact fun _ h => absurd h List.not_mem_nil
  | cons c cs ih =>
    rw [camelFrom]
    split
    · exact ih started started
    · rename_i hc
      rw [Bool.not_eq_true] at hc
      split
      · exact List.forall_mem_append.mpr ⟨isWordBreak_upper hc, ih true false⟩
      · exact List.forall_mem_cons.mpr ⟨hc, ih true false⟩

theorem camelFrom_free {cs : List Char} (h : ∀ c ∈ cs, isWordBreak c = false) :
    camelFrom false false cs = cs := by
  by_cases hEmpty : cs = []
  · rw [hEmpty, camelFrom]
  · have hEnd : ∀ c, ([] : List Char).head? = some c → isWordBreak c = true := by simp
    simpa [camelFrom] using camelFrom_token_append false hEmpty h hEnd

/-- A text in camel case is its first word with all others behind it, each capitalized. It has no
separator left, and stays as it is a second time. -/
theorem camelCase_joins_words (s : String) :
    camelCase s = joinCapitalized (words s) ∧
      ('_' ∉ (camelCase s).toList ∧ '-' ∉ (camelCase s).toList) ∧
      camelCase (camelCase s) = camelCase s := by
  have hFree : ∀ c ∈ (camelCase s).toList, isWordBreak c = false := by
    rw [camelCase, String.toList_ofList]
    exact isWordBreak_camelFrom false false s.toList
  refine ⟨camelCase_eq s, ⟨fun h => ?_, fun h => ?_⟩, ?_⟩
  · exact absurd rfl (isWordBreak_eq_false_iff.mp (hFree '_' h)).1
  · exact absurd rfl (isWordBreak_eq_false_iff.mp (hFree '-' h)).2
  · rw [camelCase, camelFrom_free hFree, String.ofList_toList]

example : camelCase "_-item__\u00dflist-" = "itemSSlist" := by
  decide +kernel

end BeanGen.Text
