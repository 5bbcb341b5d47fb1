import BeanGen.Proofs.Run.FileTree

/-!
# Where a path led before

A path that leads to a place with something in it, in a tree that has since grown, need not have led
there all along: it may go into a directory that has only just been made, and up again. A tree backs
a path if whatever the path goes up from is there already, and then the path did lead there.
-/

namespace BeanGen.Run.FileTree

/-- Every part of a path that goes up leads somewhere already. -/
def Backs (t : FileTree) (path : String) : Prop :=
  ∀ before after, namesOf path = before ++ ".." :: after →
    ∃ p, t.walk (t.startOf path) (before ++ [".."]) = .ok p

theorem walk_append (t : FileTree) (p : Place) (as bs : List String) :
    t.walk p (as ++ bs) = t.walk p as >>= fun q => t.walk q bs := by
  induction as generalizing p with
  | nil => rfl
  | cons name as ih =>
    rw [List.cons_append, walk, walk]
    cases t.enter p name with
    | error fault => rfl
    | ok r => exact ih r

section Walk

variable {t t' : FileTree} {p q : Place} {names : List String}

theorem suffix_of_walk (hDown : ".." ∉ names) (hWalk : t.walk p names = .ok q) : p <:+ q := by
  induction names generalizing p with
  | nil =>
    cases hWalk
    exact List.suffix_refl _
  | cons name names ih =>
    obtain ⟨r, hEnter, hRest⟩ := exists_enter_of_walk hWalk
    rw [List.mem_cons, not_or] at hDown
    have hSuffix := ih hDown.2 hRest
    obtain ⟨-, rfl | ⟨rfl, -⟩ | rfl⟩ := enter_cases hEnter
    · exact hSuffix
    · exact absurd rfl hDown.1
    · exact (List.suffix_cons name p).trans hSuffix

theorem Rooted.directory_of_append (h : t.Rooted) {above p : Place} (hAbove : above ≠ [])
    (hNode : (t.node? (above ++ p)).isSome = true) : t.node? p = some .directory := by
  induction above with
  | nil => exact absurd rfl hAbove
  | cons name above ih =>
    have hHolder := h name (above ++ p) hNode
    cases above with
    | nil => exact hHolder
    | cons => exact ih (by simp) (by rw [hHolder, Option.isSome_some])

/-- What is a directory now, and leads on to something that was there before, was a directory. -/
theorem Keeps.directory_of_suffix (h : t.Keeps t') (hRooted : t.Rooted) (hSuffix : p <:+ q)
    (hNode : (t.node? q).isSome = true) (hDirectory : t'.node? p = some .directory) :
    t.node? p = some .directory := by
  obtain ⟨above, rfl⟩ := hSuffix
  by_cases hAbove : above = []
  · rw [hAbove, List.nil_append] at hNode
    obtain ⟨n, hNode⟩ := Option.isSome_iff_exists.mp hNode
    cases n with
    | directory => exact hNode
    | file text =>
      have hText := h.file (by rw [textAt?_eq_some_iff.mpr hNode, Option.isSome_some])
      rw [textAt?_of_directory hDirectory] at hText
      cases hText
  · exact hRooted.directory_of_append hAbove hNode

theorem Keeps.walk_eq_of_later (h : t.Keeps t') (hRooted : t.Rooted) (hDown : ".." ∉ names)
    (hNode : (t.node? q).isSome = true) (hWalk : t'.walk p names = .ok q) :
    t.walk p names = .ok q := by
  induction names generalizing p with
  | nil => exact hWalk
  | cons name names ih =>
    have hSuffix := suffix_of_walk hDown hWalk
    obtain ⟨r, hEnter, hRest⟩ := exists_enter_of_walk hWalk
    have hDirectory := (enter_cases hEnter).1
    have hBefore := h.directory_of_suffix hRooted hSuffix hNode hDirectory
    have hSame : t.enter p name = t'.enter p name := by
      rw [enter, hBefore, enter, hDirectory]
    rw [walk, hSame, hEnter]
    exact ih (fun hUp => hDown (List.mem_cons_of_mem name hUp)) hRest

end Walk

theorem exists_last_split {α : Type} [DecidableEq α] (a : α) (xs : List α) :
    a ∉ xs ∨ ∃ before after, xs = before ++ a :: after ∧ a ∉ after := by
  by_cases ha : a ∈ xs
  · obtain ⟨after, before, hReverse, hAfter⟩ := List.eq_append_cons_of_mem (List.mem_reverse.mpr ha)
    refine .inr ⟨before.reverse, after.reverse, ?_, by simpa using hAfter⟩
    have hXs := congrArg List.reverse hReverse
    simpa using hXs
  · exact .inl ha

theorem backs_of_not_mem {t : FileTree} {path : String} (h : ".." ∉ namesOf path) :
    t.Backs path := by
  intro before after hNames
  exact absurd (hNames ▸ List.mem_append_right before List.mem_cons_self) h

section Locate

variable {t t' : FileTree} {path : String}

theorem Keeps.startOf_eq (h : t.Keeps t') (path : String) : t'.startOf path = t.startOf path := by
  rw [startOf, startOf, h.workingDirectory]

theorem Keeps.backs (h : t.Keeps t') (hBacks : t.Backs path) : t'.Backs path := by
  intro before after hNames
  obtain ⟨p, hWalk⟩ := hBacks before after hNames
  rw [← h.startOf_eq] at hWalk
  exact ⟨p, h.walk_eq hWalk⟩

/-- Where a path leads to something that was there before, it led there before. -/
theorem Keeps.locate_eq_of_later (h : t.Keeps t') (hRooted : t.Rooted) (hBacks : t.Backs path)
    {p : Place} (hNode : (t.node? p).isSome = true) (hLocate : t'.locate path = .ok p) :
    t.locate path = .ok p := by
  obtain ⟨-, hRoute, hWalk⟩ := walk_of_locate hLocate
  rw [h.route_eq, h.startOf_eq] at hRoute
  rw [h.startOf_eq] at hWalk
  rw [locate, hRoute]
  change t.walk (t.startOf path) (namesOf path) = .ok p
  rcases exists_last_split ".." (namesOf path) with hDown | ⟨before, after, hNames, hDown⟩
  · exact h.walk_eq_of_later hRooted hDown hNode hWalk
  · -- what follows the last step up goes down only
    obtain ⟨q, hUp⟩ := hBacks before after hNames
    rw [hNames, List.append_cons, walk_append, h.walk_eq hUp] at hWalk
    rw [hNames, List.append_cons, walk_append, hUp]
    exact h.walk_eq_of_later hRooted hDown hNode hWalk

end Locate

/-- A tree that backs a directory backs the path of every class in it. -/
theorem Backs.join {t : FileTree} {output : String} (h : t.Backs output) (c : Java.ClassDecl) :
    t.Backs (Path.join output c.sourcePath) := by
  have hDown := up_not_mem_sourcePath c
  intro before after hNames
  rw [namesOf_join] at hNames
  split at hNames
  · exact absurd (hNames ▸ List.mem_append_right before List.mem_cons_self) hDown
  · rename_i hRelative
    rw [startOf, isAbsolute_join hRelative, ← startOf]
    rcases List.append_eq_append_iff.mp hNames with ⟨as, -, hAfter⟩ | ⟨bs, hOutput, hAfter⟩
    · exact absurd (hAfter ▸ List.mem_append_right as List.mem_cons_self) hDown
    · cases bs with
      | nil =>
        rw [List.nil_append] at hAfter
        exact absurd (hAfter ▸ List.mem_cons_self) hDown
      | cons name bs =>
        cases hAfter
        exact h before bs hOutput

end BeanGen.Run.FileTree
