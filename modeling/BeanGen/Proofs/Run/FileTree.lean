import BeanGen.Proofs.Run.Path
import BeanGen.Proofs.Text.Ascending

/-!
# What an operation does to a file tree

Writing a file changes what lies at one place, and making directories only adds directories. Either
way directories stay directories and files stay files, so a path that has led to a place leads there
ever after. Whatever is made lies in a directory if everything did before.
-/

namespace BeanGen.Run.FileTree

/-- The text of the file at a place, if a file is there. -/
def textAt? (t : FileTree) (p : Place) : Option String :=
  match t.node? p with
  | some (.file text) => some text
  | _ => none

theorem textAt?_eq_some_iff {t : FileTree} {p : Place} {text : String} :
    t.textAt? p = some text ↔ t.node? p = some (.file text) := by
  rw [textAt?]
  split
  · rename_i hNode
    simp [hNode]
  · rename_i hNode
    exact iff_of_false (by simp) (hNode text)

theorem textAt?_eq_of_node?_eq {t t' : FileTree} {p p' : Place} (h : t'.node? p' = t.node? p) :
    t'.textAt? p' = t.textAt? p := by
  rw [textAt?, h, textAt?]

theorem textAt?_of_directory {t : FileTree} {p : Place} (h : t.node? p = some .directory) :
    t.textAt? p = none := by
  rw [textAt?, h]

theorem lookup_filter_ne (p q : Place) (nodes : List (Place × Node)) :
    (nodes.filter (·.1 != p)).lookup q = if q = p then none else nodes.lookup q := by
  induction nodes with
  | nil => simp
  | cons entry nodes ih =>
    obtain ⟨r, n⟩ := entry
    rw [List.filter_cons]
    by_cases hr : r = p
    · rw [if_neg (by simp [hr]), ih, Text.lookup_cons_entry, hr]
      split <;> rfl
    · rw [if_pos (by simp [hr]), Text.lookup_cons_entry, Text.lookup_cons_entry, ih]
      split
      · rename_i hq
        rw [if_neg (hq ▸ hr)]
      · rfl

theorem node?_put {t : FileTree} {p : Place} (hp : p ≠ []) (n : Node) (q : Place) :
    (t.put p n).node? q = if q = p then some n else t.node? q := by
  cases q with
  | nil => simp [node?, hp.symm]
  | cons name q =>
    have hNode (t : FileTree) : t.node? (name :: q) = t.nodes.lookup (name :: q) := rfl
    rw [hNode, hNode, put, Text.lookup_cons_entry, lookup_filter_ne]
    split <;> rfl

/-! ## Holders -/

/-- Whatever lies in a tree lies in a directory. -/
def Rooted (t : FileTree) : Prop :=
  ∀ name p, (t.node? (name :: p)).isSome = true → t.node? p = some .directory

theorem exists_enter_of_walk {t : FileTree} {p q : Place} {name : String} {names : List String}
    (h : t.walk p (name :: names) = .ok q) :
    ∃ r, t.enter p name = .ok r ∧ t.walk r names = .ok q := by
  rw [walk] at h
  cases hEnter : t.enter p name with
  | error fault =>
    rw [hEnter] at h
    cases h
  | ok r =>
    rw [hEnter] at h
    exact ⟨r, rfl, h⟩

/-- Where a path starts. -/
def startOf (t : FileTree) (path : String) : Place :=
  if Path.isAbsolute path then [] else t.workingDirectory

/-- A path leads to a place by a walk from where it starts. -/
theorem walk_of_locate {t : FileTree} {path : String} {p : Place} (h : t.locate path = .ok p) :
    path ≠ "" ∧ t.route path = .ok (t.startOf path, namesOf path) ∧
      t.walk (t.startOf path) (namesOf path) = .ok p := by
  rw [locate, route] at h
  rw [route]
  split at h
  · cases h
  · rename_i hNul
    split at h
    · cases h
    · rename_i hNotEmpty
      split at h
      · cases h
      · rename_i hShort
        rw [if_neg hNul, if_neg hNotEmpty, if_neg hShort]
        exact ⟨by simpa using hNotEmpty, rfl, h⟩

theorem enter_cases {t : FileTree} {p q : Place} {name : String} (h : t.enter p name = .ok q) :
    t.node? p = some .directory ∧ (q = p ∨ (name = ".." ∧ q = p.tail) ∨ q = name :: p) := by
  rw [enter] at h
  split at h
  · cases h
  · cases h
  · rename_i hNode
    refine ⟨hNode, ?_⟩
    split at h
    · cases h
    · split at h
      · cases h
        exact .inl rfl
      · split at h
        · rename_i hUp
          cases h
          exact .inr (.inl ⟨hUp, rfl⟩)
        · cases h
          exact .inr (.inr rfl)

/-- A place in a directory, or one that is a directory itself. -/
def Held (t : FileTree) (p : Place) : Prop :=
  t.node? p = some .directory ∨ (p ≠ [] ∧ t.node? p.tail = some .directory)

namespace Rooted

variable {t : FileTree}

theorem held_of_enter (h : t.Rooted) {p q : Place} {name : String}
    (hEnter : t.enter p name = .ok q) : t.Held q := by
  obtain ⟨hNode, rfl | ⟨-, rfl⟩ | rfl⟩ := enter_cases hEnter
  · exact .inl hNode
  · cases p with
    | nil => exact .inl rfl
    | cons name p => exact .inl (h name p (by rw [hNode, Option.isSome_some]))
  · exact .inr ⟨by simp, hNode⟩

theorem held_of_walk (h : t.Rooted) {p q : Place} {names : List String} (hp : t.Held p)
    (hWalk : t.walk p names = .ok q) : t.Held q := by
  induction names generalizing p with
  | nil =>
    cases hWalk
    exact hp
  | cons name names ih =>
    obtain ⟨r, hEnter, hRest⟩ := exists_enter_of_walk hWalk
    exact ih (h.held_of_enter hEnter) hRest

theorem held_of_locate (h : t.Rooted) {path : String} {p : Place}
    (hLocate : t.locate path = .ok p) : t.Held p := by
  obtain ⟨hPath, -, hWalk⟩ := walk_of_locate hLocate
  cases hNames : namesOf path with
  | nil =>
    rw [startOf, if_pos (isAbsolute_of_namesOf_eq_nil hPath hNames), hNames] at hWalk
    cases hWalk
    exact .inl rfl
  | cons name names =>
    rw [hNames] at hWalk
    obtain ⟨r, hEnter, hRest⟩ := exists_enter_of_walk hWalk
    exact h.held_of_walk (h.held_of_enter hEnter) hRest

theorem put (h : t.Rooted) {p : Place} (hHeld : t.Held p) (hFree : t.node? p ≠ some .directory)
    (n : Node) : (t.put p n).Rooted := by
  obtain hNode | ⟨hp, hHolder⟩ := hHeld
  · exact absurd hNode hFree
  · intro name q hNode
    have hHolderKept {r : Place} (hr : t.node? r = some .directory) :
        (t.put p n).node? r = some .directory := by
      rw [node?_put hp, if_neg, hr]
      rintro rfl
      exact hFree hr
    rw [node?_put hp] at hNode
    split at hNode
    · rename_i hq
      subst hq
      exact hHolderKept hHolder
    · exact hHolderKept (h name q hNode)

end Rooted

/-! ## Trees that are kept -/

/-- What has been made stays: the working directory, every directory, and every file, though with
another text perhaps. -/
structure Keeps (t t' : FileTree) : Prop where
  workingDirectory : t'.workingDirectory = t.workingDirectory
  directory {p : Place} : t.node? p = some .directory → t'.node? p = some .directory
  file {p : Place} : (t.textAt? p).isSome = true → (t'.textAt? p).isSome = true

namespace Keeps

theorem refl (t : FileTree) : t.Keeps t :=
  ⟨rfl, id, id⟩

theorem trans {t t' t'' : FileTree} (h : t.Keeps t') (h' : t'.Keeps t'') : t.Keeps t'' :=
  ⟨h'.workingDirectory.trans h.workingDirectory, h'.directory ∘ h.directory, h'.file ∘ h.file⟩

variable {t t' : FileTree}

theorem enter_eq (h : t.Keeps t') {p q : Place} {name : String} (hEnter : t.enter p name = .ok q) :
    t'.enter p name = .ok q := by
  rw [enter] at hEnter ⊢
  split at hEnter
  · cases hEnter
  · cases hEnter
  · rename_i hNode
    rw [h.directory hNode]
    exact hEnter

theorem walk_eq (h : t.Keeps t') {p q : Place} {names : List String}
    (hWalk : t.walk p names = .ok q) : t'.walk p names = .ok q := by
  induction names generalizing p with
  | nil => exact hWalk
  | cons name names ih =>
    obtain ⟨r, hEnter, hRest⟩ := exists_enter_of_walk hWalk
    rw [walk, h.enter_eq hEnter]
    exact ih hRest

theorem route_eq (h : t.Keeps t') (path : String) : t'.route path = t.route path := by
  rw [route, route, h.workingDirectory]

theorem locate_eq (h : t.Keeps t') {path : String} {p : Place} (hLocate : t.locate path = .ok p) :
    t'.locate path = .ok p := by
  rw [locate, h.route_eq]
  rw [locate] at hLocate
  cases hRoute : t.route path with
  | error fault =>
    rw [hRoute] at hLocate
    cases hLocate
  | ok route =>
    rw [hRoute] at hLocate
    exact h.walk_eq hLocate

end Keeps

/-! ## Writing a file -/

theorem writeText_eq_ok_iff {t t' : FileTree} {path text : String} :
    t.writeText path text = .ok t' ↔
      ∃ p, t.locate path = .ok p ∧ t.node? p ≠ some .directory ∧ asksDirectory path = false ∧
        t' = t.put p (.file text) := by
  rw [writeText]
  cases hLocate : t.locate path with
  | error fault => simp [bind, Except.bind]
  | ok p =>
    simp only [bind, Except.bind]
    cases hNode : t.node? p with
    | none => cases asksDirectory path <;> simp [pure, Except.pure, throw, throwThe,
        MonadExceptOf.throw, hNode, eq_comm]
    | some n =>
      cases n with
      | directory => simp [throw, throwThe, MonadExceptOf.throw, hNode]
      | file text => cases asksDirectory path <;> simp [pure, Except.pure, throw, throwThe,
          MonadExceptOf.throw, hNode, eq_comm]

/-- A text is put at a place where no directory is, and nothing else changes. -/
structure Stores (t : FileTree) (p : Place) (text : String) (t' : FileTree) : Prop where
  workingDirectory : t'.workingDirectory = t.workingDirectory
  free : t.node? p ≠ some .directory
  node? (q : Place) : t'.node? q = if q = p then some (.file text) else t.node? q
  rooted : t.Rooted → t'.Rooted

namespace Stores

variable {t t' : FileTree} {p : Place} {text : String}

theorem textAt? (h : t.Stores p text t') (q : Place) :
    t'.textAt? q = if q = p then some text else t.textAt? q := by
  split
  · rename_i hq
    rw [textAt?_eq_some_iff, h.node?, if_pos hq]
  · rename_i hq
    exact textAt?_eq_of_node?_eq (by rw [h.node?, if_neg hq])

theorem keeps (h : t.Stores p text t') : t.Keeps t' := by
  refine ⟨h.workingDirectory, ?_, ?_⟩
  · intro q hNode
    rw [h.node?, if_neg, hNode]
    rintro rfl
    exact h.free hNode
  · intro q hText
    rw [h.textAt?]
    split
    · rfl
    · exact hText

end Stores

theorem exists_stores_of_writeText {t t' : FileTree} {path text : String}
    (h : t.writeText path text = .ok t') :
    ∃ p, t.locate path = .ok p ∧ asksDirectory path = false ∧ t.Stores p text t' := by
  obtain ⟨p, hLocate, hFree, hFile, rfl⟩ := writeText_eq_ok_iff.mp h
  have hp : p ≠ [] := by
    rintro rfl
    exact hFree rfl
  refine ⟨p, hLocate, hFile, rfl, hFree, node?_put hp _, ?_⟩
  intro hRooted
  exact hRooted.put (hRooted.held_of_locate hLocate) hFree _

/-! ## Reading a file -/

theorem find_of_textAt? {t : FileTree} {path text : String} {p : Place}
    (hLocate : t.locate path = .ok p) (hText : t.textAt? p = some text)
    (hFile : asksDirectory path = false) : t.find path = .ok (.file text) := by
  rw [find, hLocate]
  simp [bind, Except.bind, textAt?_eq_some_iff.mp hText, hFile, pure, Except.pure]

theorem contains_of_textAt? {t : FileTree} {path text : String} {p : Place}
    (hLocate : t.locate path = .ok p) (hText : t.textAt? p = some text)
    (hFile : asksDirectory path = false) : t.contains path = true := by
  rw [contains, find_of_textAt? hLocate hText hFile]
  rfl

theorem readText_of_textAt? {t : FileTree} {path text : String} {p : Place}
    (hLocate : t.locate path = .ok p) (hText : t.textAt? p = some text)
    (hFile : asksDirectory path = false) : t.readText path = .ok text := by
  rw [readText, find_of_textAt? hLocate hText hFile]
  rfl

/-! ## Making directories -/

/-- Directories are put where nothing was, and nothing else changes. -/
structure AddsDirectories (t t' : FileTree) : Prop where
  workingDirectory : t'.workingDirectory = t.workingDirectory
  node? (p : Place) :
    t'.node? p = t.node? p ∨ (t.node? p = none ∧ t'.node? p = some .directory)
  rooted : t.Rooted → t'.Rooted

namespace AddsDirectories

theorem refl (t : FileTree) : t.AddsDirectories t :=
  ⟨rfl, fun _ => .inl rfl, id⟩

theorem trans {t t' t'' : FileTree} (h : t.AddsDirectories t') (h' : t'.AddsDirectories t'') :
    t.AddsDirectories t'' := by
  refine ⟨h'.workingDirectory.trans h.workingDirectory, ?_, h'.rooted ∘ h.rooted⟩
  intro p
  rcases h'.node? p with hSame | ⟨hNone, hMade⟩
  · rw [hSame]
    exact h.node? p
  · rcases h.node? p with hOld | ⟨_, hOld⟩
    · exact .inr ⟨hOld ▸ hNone, hMade⟩
    · rw [hOld] at hNone
      cases hNone

variable {t t' : FileTree}

theorem textAt? (h : t.AddsDirectories t') (p : Place) : t'.textAt? p = t.textAt? p := by
  rcases h.node? p with hSame | ⟨hNone, hMade⟩
  · exact textAt?_eq_of_node?_eq hSame
  · rw [FileTree.textAt?, hMade, FileTree.textAt?, hNone]

theorem keeps (h : t.AddsDirectories t') : t.Keeps t' := by
  refine ⟨h.workingDirectory, ?_, ?_⟩
  · intro p hNode
    rcases h.node? p with hSame | ⟨_, hMade⟩
    · exact hSame.trans hNode
    · exact hMade
  · intro p hText
    rwa [h.textAt?]

end AddsDirectories

theorem makeDir_eq_ok_iff {t t' : FileTree} {path : String} :
    t.makeDir path = .ok t' ↔
      ∃ p, t.locate path = .ok p ∧ t.node? p = none ∧ t' = t.put p .directory := by
  rw [makeDir]
  cases hLocate : t.locate path with
  | error fault => simp [bind, Except.bind]
  | ok p =>
    cases hNode : t.node? p <;> simp [bind, Except.bind, hNode, pure, Except.pure, throw, throwThe,
      MonadExceptOf.throw, eq_comm]

theorem makeDir_addsDirectories {t t' : FileTree} {path : String} (h : t.makeDir path = .ok t') :
    t.AddsDirectories t' := by
  obtain ⟨p, hLocate, hNone, rfl⟩ := makeDir_eq_ok_iff.mp h
  have hp : p ≠ [] := by
    rintro rfl
    cases hNone
  refine ⟨rfl, ?_, ?_⟩
  · intro q
    rw [node?_put hp]
    split
    · rename_i hq
      exact .inr ⟨hq ▸ hNone, rfl⟩
    · exact .inl rfl
  · intro hRooted
    exact hRooted.put (hRooted.held_of_locate hLocate) (by simp [hNone]) .directory

theorem orDirectory_addsDirectories {t : FileTree} {path : String} :
    t.AddsDirectories (t.orDirectory path (t.makeDir path)).1 := by
  cases hMade : t.makeDir path with
  | error fault => exact .refl t
  | ok made => exact makeDir_addsDirectories hMade

theorem makeDirsAlong_addsDirectories (t : FileTree) (paths : List String) :
    t.AddsDirectories (t.makeDirsAlong paths).1 := by
  induction paths with
  | nil => exact .refl t
  | cons path holders ih =>
    rw [makeDirsAlong]
    split
    · split
      · rename_i made hMade
        rw [hMade] at ih
        exact ih.trans orDirectory_addsDirectories
      · rename_i made fault hMade
        rw [hMade] at ih
        exact ih
    · exact orDirectory_addsDirectories

theorem makeDirs_addsDirectories (t : FileTree) (path : String) :
    t.AddsDirectories (t.makeDirs path).1 :=
  t.makeDirsAlong_addsDirectories (Path.withHolders path)

/-! ## Trees that are built file by file -/

theorem rooted_withWorkingDirectory (names : List String) :
    (withWorkingDirectory names).Rooted := by
  have hEmpty : (⟨[], []⟩ : FileTree).Rooted := by
    intro name p hNode
    simp [node?] at hNode
  exact (makeDirs_addsDirectories ⟨[], []⟩ _).rooted hEmpty

theorem Rooted.of_writeText {t t' : FileTree} (h : t.Rooted) {path text : String}
    (hWrite : t.writeText path text = .ok t') : t'.Rooted := by
  obtain ⟨p, -, -, hStores⟩ := exists_stores_of_writeText hWrite
  exact hStores.rooted h

theorem Rooted.withFile {t : FileTree} (h : t.Rooted) (path text : String) :
    (t.withFile path text).Rooted := by
  rw [FileTree.withFile]
  cases Path.parent? path with
  | none =>
    dsimp only
    split
    · exact h.of_writeText ‹_›
    · exact h
  | some parent =>
    have hMade := (t.makeDirs_addsDirectories parent).rooted h
    dsimp only
    split
    · exact hMade.of_writeText ‹_›
    · exact hMade

end BeanGen.Run.FileTree
