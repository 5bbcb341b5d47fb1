import BeanGen.Java.CompilationUnit
import BeanGen.Proofs.Java.Name
import BeanGen.Proofs.Text.Runs
import BeanGen.Run.FileTree

/-!
# The names of a path

Joining paths puts their names one after another, unless the second one starts at the root. The path
of a class never goes up: its package is cut at every point, and the one point it has left stands
before the ending of the file.
-/

namespace BeanGen.Run

open FileTree

theorem isAbsolute_iff {path : String} :
    Path.isAbsolute path = true ↔ path.toList.head? = some '/' := by
  rw [Path.isAbsolute, String.startsWith_string_iff]
  exact List.singleton_prefix_iff_head?_eq_some

theorem endsWith_slash_iff {path : String} :
    path.endsWith "/" = true ↔ ∃ cs, path.toList = cs ++ ['/'] := by
  rw [String.endsWith_eq_endsWith_toSlice, String.Slice.endsWith_string_iff]
  constructor
  · rintro ⟨cs, hPath⟩
    exact ⟨cs, by simpa using hPath.symm⟩
  · rintro ⟨cs, hPath⟩
    exact ⟨cs, by simpa using hPath.symm⟩

theorem isAbsolute_of_namesOf_eq_nil {path : String} (hPath : path ≠ "") (h : namesOf path = []) :
    Path.isAbsolute path = true := by
  rw [isAbsolute_iff]
  have hHolds := Text.runs_eq_iff.mp (List.map_eq_nil_iff.mp h)
  cases hChars : path.toList with
  | nil => exact absurd (String.toList_eq_nil_iff.mp hChars) hPath
  | cons c cs =>
    rw [hChars] at hHolds
    cases hHolds with
    | nil hBlank => simpa using hBlank c List.mem_cons_self

@[simp] theorem namesOf_empty : namesOf "" = [] :=
  rfl

theorem namesOf_of_toList {path : String} {as bs : List Char} (h : path.toList = as ++ '/' :: bs) :
    namesOf path = namesOf (String.ofList as) ++ namesOf (String.ofList bs) := by
  rw [namesOf, h, Text.runs_append_gap (by decide), List.map_append]
  simp [namesOf]

/-- Joining puts names one after another, unless the second path starts at the root. -/
theorem namesOf_join (base part : String) :
    namesOf (Path.join base part) =
      if Path.isAbsolute part then namesOf part else namesOf base ++ namesOf part := by
  rw [Path.join]
  split
  · rfl
  · split
    · rename_i hBase
      rcases Bool.or_eq_true_iff.mp hBase with hEmpty | hSlash
      · rw [String.isEmpty_iff.mp hEmpty]
        simp
      · obtain ⟨cs, hCs⟩ := endsWith_slash_iff.mp hSlash
        have hJoined : (base ++ part).toList = cs ++ '/' :: part.toList := by
          rw [String.toList_append, hCs]
          simp
        rw [namesOf_of_toList hJoined, namesOf_of_toList hCs]
        simp
    · have hJoined : (base ++ "/" ++ part).toList = base.toList ++ '/' :: part.toList := by
        simp [String.toList_append]
      rw [namesOf_of_toList hJoined]
      simp

/-- A path that something relative is joined to starts where it did. -/
theorem isAbsolute_join {base part : String} (h : ¬ Path.isAbsolute part = true) :
    Path.isAbsolute (Path.join base part) = Path.isAbsolute base := by
  rw [Path.join, if_neg h, Bool.eq_iff_iff]
  cases hBase : base.toList with
  | nil =>
    rw [isAbsolute_iff] at h
    rw [String.toList_eq_nil_iff.mp hBase, isAbsolute_iff, isAbsolute_iff]
    simpa using h
  | cons c cs =>
    rw [isAbsolute_iff, isAbsolute_iff]
    split <;> simp [String.toList_append, hBase]

/-- The text can be one name of a path. -/
def IsName (part : String) : Prop :=
  part ≠ "" ∧ '/' ∉ part.toList

theorem IsName.not_isAbsolute {part : String} (h : IsName part) : ¬ Path.isAbsolute part = true := by
  rw [isAbsolute_iff]
  exact fun hSlash => h.2 (List.mem_of_mem_head? hSlash)

theorem IsName.not_endsWith_slash {part : String} (h : IsName part) (base : String) :
    ¬ (base ++ part).endsWith "/" = true := by
  rw [endsWith_slash_iff]
  rintro ⟨cs, hSlash⟩
  rw [String.toList_append] at hSlash
  have hLast := congrArg List.getLast? hSlash
  rw [List.getLast?_append, List.getLast?_concat] at hLast
  cases hPart : part.toList.getLast? with
  | none => exact h.1 (String.toList_eq_nil_iff.mp (List.getLast?_eq_none_iff.mp hPart))
  | some c =>
    rw [hPart] at hLast
    cases hLast
    exact h.2 (List.mem_of_getLast? hPart)

theorem join_of_isName {base part : String} (hBase : base ≠ "") (hEnd : ¬ base.endsWith "/" = true)
    (h : IsName part) : Path.join base part = base ++ "/" ++ part := by
  rw [Path.join, if_neg h.not_isAbsolute, if_neg]
  simpa [hBase] using hEnd

/-- Names that are joined one by one stand between slashes. -/
theorem foldl_join_of_isName {names : List String} (h : ∀ name ∈ names, IsName name) {base : String}
    (hBase : base ≠ "") (hEnd : ¬ base.endsWith "/" = true) :
    names.foldl Path.join base = "/".intercalate (base :: names) := by
  induction names generalizing base with
  | nil => rw [String.intercalate_singleton, List.foldl_nil]
  | cons name names ih =>
    obtain ⟨hName, hRest⟩ := List.forall_mem_cons.mp h
    rw [List.foldl_cons, join_of_isName hBase hEnd hName, String.intercalate_cons_cons]
    have hLonger : base ++ "/" ++ name ≠ "" := by simp
    rw [ih hRest hLonger (hName.not_endsWith_slash (base ++ "/")), String.intercalate_cons_append]

theorem foldl_join_empty {names : List String} (h : ∀ name ∈ names, IsName name) :
    names.foldl Path.join "" = "/".intercalate names := by
  cases names with
  | nil => rfl
  | cons name names =>
    obtain ⟨hName, hRest⟩ := List.forall_mem_cons.mp h
    have hEnd := hName.not_endsWith_slash ""
    rw [String.empty_append] at hEnd
    have hFirst : Path.join "" name = name := by
      rw [Path.join, if_neg hName.not_isAbsolute]
      simp
    rw [List.foldl_cons, hFirst, foldl_join_of_isName hRest hName.1 hEnd]

theorem namesOf_intercalate {names : List String} (h : ∀ name ∈ names, IsName name) :
    namesOf ("/".intercalate names) = names := by
  have hTokens : Text.AreTokens (· == '/') (names.map String.toList) := by
    rw [Text.AreTokens, List.forall_mem_map]
    intro name hMem
    refine ⟨by simpa using (h name hMem).1, fun c hc => ?_⟩
    exact beq_eq_false_iff_ne.mpr (ne_of_mem_of_not_mem hc (h name hMem).2)
  rw [namesOf, String.toList_intercalate, show "/".toList = ['/'] from rfl,
    hTokens.runs_intercalate rfl, List.map_map]
  simp [Function.comp_def]

theorem mem_namesOf_join {base part name : String} (h : name ∈ namesOf (Path.join base part)) :
    name ∈ namesOf base ∨ name ∈ namesOf part := by
  rw [namesOf_join] at h
  split at h
  · exact .inr h
  · exact List.mem_append.mp h

theorem up_not_mem_namesOf {path : String} (h : path.toList.count '.' ≤ 1) :
    ".." ∉ namesOf path := by
  intro hUp
  obtain ⟨s, hs, hName⟩ := List.mem_map.mp hUp
  have hTwo : s.count '.' = 2 := by
    rw [← String.toList_ofList (l := s), hName]
    rfl
  have hLe := (Text.of_mem_runs hs).1.count_le '.'
  omega

theorem up_not_mem_foldl_join {parts : List (List Char)} {base : String}
    (hParts : ∀ part ∈ parts, '.' ∉ part) (hBase : ".." ∉ namesOf base) :
    ".." ∉ namesOf (parts.foldl (fun p d => Path.join p (String.ofList d)) base) := by
  induction parts generalizing base with
  | nil => exact hBase
  | cons part parts ih =>
    refine ih (fun p hp => hParts p (List.mem_cons_of_mem part hp)) ?_
    intro hUp
    rcases mem_namesOf_join hUp with hUp | hUp
    · exact hBase hUp
    · refine up_not_mem_namesOf ?_ hUp
      rw [String.toList_ofList, List.count_eq_zero.mpr (hParts part List.mem_cons_self)]
      omega

/-- The path of a class does not go up. -/
theorem up_not_mem_sourcePath (c : Java.ClassDecl) : ".." ∉ namesOf c.sourcePath := by
  intro hUp
  rcases mem_namesOf_join hUp with hUp | hUp
  · refine up_not_mem_foldl_join ?_ (by simp) hUp
    intro part hPart hPoint
    have hGap := (Text.of_mem_runs hPart).2 '.' hPoint
    simp at hGap
  · have hFree : '.' ∉ c.localName.toList := Java.point_not_mem_simpleName c.name
    refine up_not_mem_namesOf ?_ hUp
    rw [String.toList_append, List.count_append, List.count_eq_zero.mpr hFree]
    decide

end BeanGen.Run
