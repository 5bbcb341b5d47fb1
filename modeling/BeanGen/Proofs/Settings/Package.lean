import BeanGen.Proofs.Run.Path
import BeanGen.Proofs.Settings.Qualify
import BeanGen.Settings.Validity
import Mathlib.Data.List.Basic

/-!
# Classes in the package of the settings

A package that the check accepts is empty, or it is made of identifiers with points between them.
A name without a point that is put into it can be cut off again, and the package cut at its points
gives the directories on the way to the file of the class, none lost and no two made into one.
-/

namespace BeanGen.Settings

open Java Run FileTree

variable {s : Settings}

def IsLetter (c : Char) : Prop :=
  'A' ≤ c ∧ c ≤ 'Z' ∨ 'a' ≤ c ∧ c ≤ 'z'

def IsDigit (c : Char) : Prop :=
  '0' ≤ c ∧ c ≤ '9'

/-- The text is a letter or an underscore, and then letters, digits and underscores. -/
def IsPackagePart (part : String) : Prop :=
  ∃ first rest, part.toList = first :: rest ∧ (IsLetter first ∨ first = '_') ∧
    ∀ c ∈ rest, IsLetter c ∨ IsDigit c ∨ c = '_'

/-! ## The parts of a package -/

theorem isUpper_iff {c : Char} : c.isUpper = true ↔ 'A' ≤ c ∧ c ≤ 'Z' :=
  decide_eq_true_iff

theorem isLower_iff {c : Char} : c.isLower = true ↔ 'a' ≤ c ∧ c ≤ 'z' :=
  Bool.and_eq_true_iff.trans (and_congr decide_eq_true_iff decide_eq_true_iff)

theorem isAlpha_iff {c : Char} : c.isAlpha = true ↔ IsLetter c :=
  Bool.or_eq_true_iff.trans (or_congr isUpper_iff isLower_iff)

theorem isDigit_iff {c : Char} : c.isDigit = true ↔ IsDigit c := by
  simp [Char.isDigit, IsDigit, Char.le_def]

theorem isIdentifier_iff {part : String} :
    isIdentifier part.toList = true ↔ IsPackagePart part := by
  rw [IsPackagePart]
  cases part.toList with
  | nil => simp [isIdentifier]
  | cons first rest =>
    simp only [isIdentifier, Char.isAlphanum, Bool.and_eq_true, Bool.or_eq_true, beq_iff_eq,
      List.all_eq_true, isAlpha_iff, isDigit_iff, or_assoc]
    constructor
    · rintro ⟨hFirst, hRest⟩
      exact ⟨first, rest, rfl, hFirst, hRest⟩
    · rintro ⟨_, _, hEq, hFirst, hRest⟩
      cases hEq
      exact ⟨hFirst, hRest⟩

theorem IsPackagePart.not_mem {part : String} (h : IsPackagePart part) {c : Char}
    (hOther : ¬ (IsLetter c ∨ IsDigit c ∨ c = '_')) : c ∉ part.toList := by
  obtain ⟨first, rest, hPart, hFirst, hRest⟩ := h
  rw [hPart, List.mem_cons, not_or]
  refine ⟨?_, fun hc => hOther (hRest c hc)⟩
  rintro rfl
  rcases hFirst with hLetter | hUnderscore
  · exact hOther (.inl hLetter)
  · exact hOther (.inr (.inr hUnderscore))

theorem IsPackagePart.point_not_mem {part : String} (h : IsPackagePart part) :
    '.' ∉ part.toList :=
  h.not_mem (by unfold IsLetter IsDigit; decide)

theorem IsPackagePart.isName {part : String} (h : IsPackagePart part) : IsName part := by
  refine ⟨?_, h.not_mem (by unfold IsLetter IsDigit; decide)⟩
  rintro rfl
  obtain ⟨_, _, hPart, -⟩ := h
  cases hPart

theorem areTokens_of_isPackagePart {parts : List String} (h : ∀ part ∈ parts, IsPackagePart part) :
    Text.AreTokens (· == '.') (parts.map String.toList) := by
  rw [Text.AreTokens, List.forall_mem_map]
  intro part hPart
  refine ⟨by simpa using (h part hPart).isName.1, fun c hc => ?_⟩
  exact beq_eq_false_iff_ne.mpr (ne_of_mem_of_not_mem hc (h part hPart).point_not_mem)

/-- A package name is one or more parts with points between them. -/
theorem isPackageName_iff {package : String} : isPackageName package = true ↔
    ∃ parts ≠ [], (∀ part ∈ parts, IsPackagePart part) ∧ ".".intercalate parts = package := by
  rw [isPackageName, Text.segments_eq_splitOn, List.all_eq_true]
  constructor
  · intro h
    refine ⟨(package.toList.splitOn '.').map String.ofList, ?_, ?_, ?_⟩
    · simp
    · rw [List.forall_mem_map]
      intro segment hSegment
      rw [← isIdentifier_iff, String.toList_ofList]
      exact h segment hSegment
    · rw [← String.toList_inj, String.toList_intercalate, List.map_map]
      simp [Function.comp_def]
  · rintro ⟨parts, hSome, hParts, rfl⟩ segment hSegment
    have hFree : ∀ cs ∈ parts.map String.toList, '.' ∉ cs :=
      List.forall_mem_map.mpr fun part hPart => (hParts part hPart).point_not_mem
    rw [String.toList_intercalate, show ".".toList = ['.'] from rfl,
      List.splitOn_intercalate '.' hFree (by simpa using hSome)] at hSegment
    obtain ⟨part, hPart, rfl⟩ := List.mem_map.mp hSegment
    exact isIdentifier_iff.mpr (hParts part hPart)

theorem isPackageName_of_check (h : s.check = .ok ()) (hPackage : s.package ≠ "") :
    isPackageName s.package = true := by
  rw [check] at h
  repeat' split at h
  all_goals simp_all

/-- The package of settings that pass the check, the empty one included, is its parts with points
between them. -/
theorem exists_parts_of_check (h : s.check = .ok ()) :
    ∃ parts, (∀ part ∈ parts, IsPackagePart part) ∧ ".".intercalate parts = s.package := by
  by_cases hPackage : s.package = ""
  · exact ⟨[], nofun, hPackage.symm⟩
  · obtain ⟨parts, -, hParts, hEq⟩ := isPackageName_iff.mp (isPackageName_of_check h hPackage)
    exact ⟨parts, hParts, hEq⟩

theorem check_of_validate (h : s.validate = .ok ()) : s.check = .ok () := by
  rw [validate] at h
  cases hCheck : s.check with
  | error fault =>
    rw [hCheck] at h
    cases h
  | ok => rfl

/-! ## The file of a class -/

theorem packageName_qualify_of_free {name : String} (hName : isQualified name = false) :
    packageName (s.qualify name) = s.package := by
  by_cases hPackage : s.package = ""
  · rw [qualify_of_package_eq_empty name hPackage, hPackage, packageName_of_free hName]
  · exact packageName_qualify hPackage hName

/-- The parts of the package are the directories on the way to the file of a class. -/
theorem sourcePath_of_parts {c : ClassDecl} {parts : List String}
    (hParts : ∀ part ∈ parts, IsPackagePart part) (hPackage : ".".intercalate parts = c.package)
    (hName : '/' ∉ c.localName.toList) :
    c.sourcePath = "/".intercalate (parts ++ [c.localName ++ ".java"]) ∧
      namesOf c.sourcePath = parts ++ [c.localName ++ ".java"] := by
  have hNames : ∀ name ∈ parts ++ [c.localName ++ ".java"], IsName name := by
    rw [List.forall_mem_append, List.forall_mem_singleton]
    refine ⟨fun part hPart => (hParts part hPart).isName, by simp, ?_⟩
    rw [String.toList_append, List.mem_append, not_or]
    exact ⟨hName, by decide⟩
  have hDirectories : Text.runs (· == '.') c.package.toList = parts.map String.toList := by
    rw [← hPackage, String.toList_intercalate]
    exact (areTokens_of_isPackagePart hParts).runs_intercalate rfl
  have hPath : c.sourcePath = "/".intercalate (parts ++ [c.localName ++ ".java"]) := by
    rw [← foldl_join_empty hNames, ClassDecl.sourcePath, hDirectories, List.foldl_append,
      List.foldl_map]
    simp only [String.ofList_toList, List.foldl_cons, List.foldl_nil]
  exact ⟨hPath, by rw [hPath, namesOf_intercalate hNames]⟩

/-- The package of settings that pass the check is empty or made of parts with points between them,
and a name is put into it once. The class of a name without points and slashes lies in the package,
keeps the name as its simple name, and has its file behind the parts of the package. -/
theorem qualified_class_lies_in_package (h : s.validate = .ok ()) :
    ∃ parts, (∀ part ∈ parts, IsPackagePart part) ∧ ".".intercalate parts = s.package ∧
      (∀ name, s.qualify (s.qualify name) = s.qualify name) ∧
      ∀ name, '.' ∉ name.toList → '/' ∉ name.toList → ∀ c : ClassDecl, c.name = s.qualify name →
        c.package = s.package ∧ c.localName = name ∧
        c.sourcePath = "/".intercalate (parts ++ [name ++ ".java"]) ∧
        namesOf c.sourcePath = parts ++ [name ++ ".java"] := by
  obtain ⟨parts, hParts, hPackage⟩ := exists_parts_of_check (check_of_validate h)
  refine ⟨parts, hParts, hPackage, qualify_qualify s, fun name hPoint hSlash c hName => ?_⟩
  have hFree : isQualified name = false := isQualified_eq_false_iff.mpr hPoint
  have hOwn : c.package = s.package := by
    rw [ClassDecl.package, hName, packageName_qualify_of_free hFree]
  have hLocal : c.localName = name := by
    rw [ClassDecl.localName, hName, simpleName_qualify, simpleName_of_free hFree]
  have hFile := sourcePath_of_parts hParts (hPackage.trans hOwn.symm) (by rwa [hLocal])
  rw [hLocal] at hFile
  exact ⟨hOwn, hLocal, hFile⟩

theorem qualified_class_lies_in_package_order :
    packaged.validate = .ok () ∧ '.' ∉ "Order".toList ∧ '/' ∉ "Order".toList ∧
      (ClassDecl.ofName "org.example.Order").name = packaged.qualify "Order" ∧
      ∃ parts, (∀ part ∈ parts, IsPackagePart part) ∧ ".".intercalate parts = "org.example" ∧
        (ClassDecl.ofName "org.example.Order").sourcePath =
          "/".intercalate (parts ++ ["Order.java"]) := by
  have hCheck : packaged.check = .ok () := by decide +kernel
  have hValid : packaged.validate = .ok () := by
    rw [validate, hCheck]
    rfl
  have hPoint : '.' ∉ "Order".toList := by decide
  have hSlash : '/' ∉ "Order".toList := by decide
  have hName : (ClassDecl.ofName "org.example.Order").name = packaged.qualify "Order" := by
    decide +kernel
  obtain ⟨parts, hParts, hPackage, -, hClass⟩ := qualified_class_lies_in_package hValid
  obtain ⟨-, -, hPath, -⟩ := hClass "Order" hPoint hSlash _ hName
  exact ⟨hValid, hPoint, hSlash, hName, parts, hParts, hPackage, hPath⟩

end BeanGen.Settings
