import BeanGen.Proofs.Java.Name
import BeanGen.Settings.Basic

/-!
# Names in the package of the settings

A name keeps its simple name when the package is put before it, and it is not put before a name that
has one. A name that is qualified already, or with no package to put before it, stays as it is, and
no other does.
-/

namespace BeanGen.Settings

open Java

variable {s : Settings} {name : String}

theorem qualify_of_isQualified (s : Settings) (h : isQualified name = true) :
    s.qualify name = name := by
  rw [qualify, h, Bool.true_or, if_pos rfl]

theorem qualify_of_package_eq_empty (name : String) (h : s.package = "") :
    s.qualify name = name := by
  rw [qualify, h]
  simp

theorem qualify_of_free (hPackage : s.package ≠ "") (h : isQualified name = false) :
    s.qualify name = s.package ++ "." ++ name := by
  rw [qualify, h, Bool.false_or, if_neg]
  simpa using hPackage

theorem qualify_cases (s : Settings) (name : String) :
    (s.package = "" ∨ isQualified name = true) ∧ s.qualify name = name ∨
      s.package ≠ "" ∧ isQualified name = false ∧ s.qualify name = s.package ++ "." ++ name := by
  by_cases hPackage : s.package = ""
  · exact .inl ⟨.inl hPackage, qualify_of_package_eq_empty name hPackage⟩
  · cases hQualified : isQualified name with
    | true => exact .inl ⟨.inr rfl, qualify_of_isQualified s hQualified⟩
    | false => exact .inr ⟨hPackage, rfl, qualify_of_free hPackage hQualified⟩

theorem qualify_eq_self_iff : s.qualify name = name ↔ s.package = "" ∨ isQualified name = true := by
  rcases qualify_cases s name with ⟨hKept, hEq⟩ | ⟨hPackage, hFree, hEq⟩
  · exact iff_of_true hEq hKept
  · apply iff_of_false
    · intro hSelf
      have hQualified := isQualified_joined s.package name
      rw [← hEq, hSelf, hFree] at hQualified
      cases hQualified
    · rintro (hEmpty | hQualified)
      · exact hPackage hEmpty
      · rw [hFree] at hQualified
        cases hQualified

theorem qualify_qualify (s : Settings) (name : String) :
    s.qualify (s.qualify name) = s.qualify name := by
  rcases qualify_cases s name with ⟨-, hEq⟩ | ⟨-, -, hEq⟩
  · rw [hEq, hEq]
  · rw [hEq]
    exact qualify_of_isQualified s (isQualified_joined s.package name)

theorem isQualified_qualify (hPackage : s.package ≠ "") (name : String) :
    isQualified (s.qualify name) = true := by
  rcases qualify_cases s name with ⟨hEmpty | hQualified, hEq⟩ | ⟨-, -, hEq⟩
  · exact absurd hEmpty hPackage
  · rwa [hEq]
  · rw [hEq]
    exact isQualified_joined s.package name

theorem simpleName_qualify (s : Settings) (name : String) :
    simpleName (s.qualify name) = simpleName name := by
  rcases qualify_cases s name with ⟨-, hEq⟩ | ⟨-, hFree, hEq⟩
  · rw [hEq]
  · rw [hEq, simpleName_joined s.package hFree, simpleName_of_free hFree]

theorem packageName_qualify_append {ending : String} (hPackage : s.package ≠ "")
    (hName : isQualified name = false) (hEnding : isQualified ending = false) :
    packageName (s.qualify name ++ ending) = s.package := by
  rw [qualify_of_free hPackage hName, String.append_assoc, packageName_joined]
  rw [isQualified_eq_false_iff] at hName hEnding ⊢
  rw [String.toList_append, List.mem_append, not_or]
  exact ⟨hName, hEnding⟩

theorem packageName_qualify (hPackage : s.package ≠ "") (hName : isQualified name = false) :
    packageName (s.qualify name) = s.package := by
  rw [← String.append_empty (s := s.qualify name)]
  exact packageName_qualify_append hPackage hName rfl

/-- The standard settings with a package. -/
def packaged : Settings :=
  { Settings.standard with package := "org.example" }

end BeanGen.Settings
