import BeanGen.Java.Name

/-!
# Cutting qualified names

What stands after the last point has no point, so a simple name is its own simple name. A name
without a point behind a package and a point is cut there again.
-/

namespace BeanGen.Java

theorem splitLastPoint_cases (cs : List Char) :
    (splitLastPoint cs = none ∧ '.' ∉ cs) ∨
      ∃ before after, splitLastPoint cs = some (before, after) ∧ '.' ∉ after := by
  induction cs with
  | nil => exact .inl ⟨rfl, by simp⟩
  | cons c cs ih =>
    rw [splitLastPoint]
    rcases ih with ⟨hNone, hFree⟩ | ⟨before, after, hSome, hFree⟩
    · rw [hNone]
      by_cases hc : c = '.'
      · exact .inr ⟨[], cs, by simp [hc], hFree⟩
      · exact .inl ⟨by simp [hc], by simp [Ne.symm hc, hFree]⟩
    · exact .inr ⟨c :: before, after, by rw [hSome], hFree⟩

theorem of_splitLastPoint {cs before after : List Char}
    (h : splitLastPoint cs = some (before, after)) :
    cs = before ++ '.' :: after ∧ '.' ∉ after := by
  induction cs generalizing before with
  | nil => cases h
  | cons c cs ih =>
    rw [splitLastPoint] at h
    rcases splitLastPoint_cases cs with ⟨hNone, hFree⟩ | ⟨before', after', hSome, hFree⟩
    · rw [hNone] at h
      dsimp only at h
      split at h
      · rename_i hc
        cases h
        exact ⟨by rw [hc, List.nil_append], hFree⟩
      · cases h
    · rw [hSome] at h
      cases h
      exact ⟨congrArg (c :: ·) (ih hSome).1, hFree⟩

theorem point_not_mem_simpleName (name : String) : '.' ∉ (simpleName name).toList := by
  rw [simpleName]
  rcases splitLastPoint_cases name.toList with ⟨hNone, hFree⟩ | ⟨before, after, hSome, hFree⟩
  · rwa [hNone]
  · rw [hSome]
    simpa using hFree

theorem splitLastPoint_of_free {cs : List Char} (h : '.' ∉ cs) : splitLastPoint cs = none := by
  induction cs with
  | nil => rfl
  | cons c cs ih =>
    rw [List.mem_cons, not_or] at h
    rw [splitLastPoint, ih h.2]
    exact if_neg (Ne.symm h.1)

/-- The name after the last point is not cut again. -/
theorem simpleName_simpleName (name : String) : simpleName (simpleName name) = simpleName name := by
  have hFree := point_not_mem_simpleName name
  generalize simpleName name = simple at hFree ⊢
  rw [simpleName, splitLastPoint_of_free hFree]

theorem splitLastPoint_append {after : List Char} (h : '.' ∉ after) (before : List Char) :
    splitLastPoint (before ++ '.' :: after) = some (before, after) := by
  induction before with
  | nil =>
    rw [List.nil_append, splitLastPoint, splitLastPoint_of_free h]
    rfl
  | cons c before ih => rw [List.cons_append, splitLastPoint, ih]

theorem isQualified_eq_false_iff {name : String} : isQualified name = false ↔ '.' ∉ name.toList := by
  rw [isQualified, List.any_eq_false]
  constructor
  · intro h hPoint
    exact h '.' hPoint rfl
  · rintro h c hc hPoint
    rw [beq_iff_eq.mp hPoint] at hc
    exact h hc

section Joined

variable {name : String} (package : String)

theorem toList_joined (name : String) :
    (package ++ "." ++ name).toList = package.toList ++ '.' :: name.toList := by
  rw [String.toList_append, String.toList_append, List.append_assoc]
  rfl

theorem isQualified_joined (name : String) : isQualified (package ++ "." ++ name) = true := by
  rw [isQualified, toList_joined]
  exact List.any_eq_true.mpr ⟨'.', List.mem_append_right _ List.mem_cons_self, rfl⟩

theorem packageName_joined (h : isQualified name = false) :
    packageName (package ++ "." ++ name) = package := by
  have hCut := splitLastPoint_append (isQualified_eq_false_iff.mp h) package.toList
  rw [packageName, toList_joined, hCut]
  exact String.ofList_toList

theorem simpleName_joined (h : isQualified name = false) :
    simpleName (package ++ "." ++ name) = name := by
  have hCut := splitLastPoint_append (isQualified_eq_false_iff.mp h) package.toList
  rw [simpleName, toList_joined, hCut]
  exact String.ofList_toList

end Joined

theorem packageName_of_free {name : String} (h : isQualified name = false) :
    packageName name = "" := by
  rw [packageName, splitLastPoint_of_free (isQualified_eq_false_iff.mp h)]

theorem simpleName_of_free {name : String} (h : isQualified name = false) :
    simpleName name = name := by
  rw [simpleName, splitLastPoint_of_free (isQualified_eq_false_iff.mp h)]

end BeanGen.Java
