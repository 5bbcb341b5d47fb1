import BeanGen.Conflict.Terminal
import BeanGen.Proofs.Generation.Naming
import BeanGen.Proofs.Run.Backing
import BeanGen.Proofs.Run.Outcome
import BeanGen.Proofs.Settings.Package

/-!
# What lies below the output directory

The path of a class is joined from the parts between the points of its name, and a part that starts
with a slash discards everything before it. So the path is relative exactly if no part does. Since
it never goes up, a relative one leads to a place below the output directory, wherever that is. A
check of the settings keeps slashes out of the package, but nothing keeps them out of the names of
types and out of suffixes.
-/

namespace BeanGen.Java

theorem segments_of_free {cs : List Char} (h : '.' ∉ cs) : Text.segments (· == '.') cs = [cs] := by
  rw [Text.segments_eq_splitOn, List.splitOn_eq_singleton h]

/-- No part between the points of a name starts with a slash. -/
def Rootless (name : String) : Prop :=
  ∀ part ∈ Text.segments (· == '.') name.toList, part.head? ≠ some '/'

instance (name : String) : Decidable (Rootless name) :=
  inferInstanceAs (Decidable (∀ part ∈ Text.segments (· == '.') name.toList, _))

/-- The parts of a qualified name are those of its package and its simple name. -/
theorem rootless_iff (name : String) :
    Rootless name ↔
      (∀ part ∈ Text.runs (· == '.') (packageName name).toList, part.head? ≠ some '/') ∧
        (simpleName name).toList.head? ≠ some '/' := by
  have hRuns : ∀ cs : List Char, (∀ part ∈ Text.runs (· == '.') cs, part.head? ≠ some '/') ↔
      ∀ part ∈ Text.segments (· == '.') cs, part.head? ≠ some '/' := by
    intro cs
    simp only [Text.runs, List.mem_filter]
    refine forall_congr' fun part => ⟨?_, fun h hMem => h hMem.1⟩
    intro h hMem
    cases part with
    | nil => simp
    | cons c part => exact h ⟨hMem, rfl⟩
  rw [hRuns, Rootless, packageName, simpleName]
  cases hSplit : splitLastPoint name.toList with
  | none =>
    rcases splitLastPoint_cases name.toList with ⟨-, hFree⟩ | ⟨_, _, hSome, -⟩
    · simp [segments_of_free hFree, Text.segments]
    · cases hSplit.symm.trans hSome
  | some halves =>
    obtain ⟨before, after⟩ := halves
    obtain ⟨hName, hFree⟩ := of_splitLastPoint hSplit
    rw [hName, Text.segments_append_gap (by decide), segments_of_free hFree]
    simp [or_imp, forall_and]

theorem rootless_prefixed {package name : String} (h : Settings.isPackageName package = true) :
    Rootless (package ++ "." ++ name) ↔ Rootless name := by
  have hParts : ∀ part ∈ Text.segments (· == '.') package.toList, part.head? ≠ some '/' := by
    intro part hPart hSlash
    have hIdentifier := List.all_eq_true.mp h part hPart
    cases part with
    | nil => cases hSlash
    | cons c part =>
      cases hSlash
      revert hIdentifier
      simp [isIdentifier]
  rw [Rootless, Rootless, toList_joined, Text.segments_append_gap (by decide)]
  simp only [List.mem_append, or_imp, forall_and]
  exact and_iff_right hParts

end BeanGen.Java

namespace BeanGen.Run

open FileTree Generation Conflict Java

theorem isAbsolute_join_eq (base part : String) :
    Path.isAbsolute (Path.join base part) = (Path.isAbsolute part || Path.isAbsolute base) := by
  cases hPart : Path.isAbsolute part with
  | true => rw [Path.join, if_pos hPart, hPart, Bool.true_or]
  | false => rw [isAbsolute_join (by simp [hPart]), Bool.false_or]

theorem isAbsolute_foldl_join_iff (parts : List (List Char)) (base : String) :
    Path.isAbsolute (parts.foldl (fun p d => Path.join p (String.ofList d)) base) = true ↔
      Path.isAbsolute base = true ∨ ∃ part ∈ parts, part.head? = some '/' := by
  induction parts generalizing base with
  | nil => simp
  | cons part parts ih =>
    have hPart : Path.isAbsolute (.ofList part) = true ↔ part.head? = some '/' := by
      rw [isAbsolute_iff, String.toList_ofList]
    rw [List.foldl_cons, ih, isAbsolute_join_eq, Bool.or_eq_true, hPart, List.exists_mem_cons_iff]
    tauto

/-- The path of a class is relative exactly if no part of its name starts with a slash. -/
theorem relative_sourcePath_iff (c : ClassDecl) :
    Path.isAbsolute c.sourcePath = false ↔ Rootless c.name := by
  have hFile : (c.localName ++ ".java").toList.head? = some '/' ↔
      (simpleName c.name).toList.head? = some '/' := by
    rw [ClassDecl.localName, String.toList_append]
    cases (simpleName c.name).toList <;> simp
  have hBase : Path.isAbsolute "" = false := by decide
  rw [rootless_iff, ← Bool.not_eq_true, ClassDecl.sourcePath, isAbsolute_join_eq, Bool.or_eq_true,
    isAbsolute_foldl_join_iff, isAbsolute_iff, hFile, hBase, ClassDecl.package]
  simp only [not_or, not_exists, not_and, Bool.false_eq_true, false_or]
  tauto

/-! ## The classes of a type -/

theorem rootless_qualify_iff {s : Settings} (h : s.check = .ok ()) (name suffix : String) :
    Rootless (s.qualify name ++ suffix) ↔ Rootless (name ++ suffix) := by
  rcases Settings.qualify_cases s name with ⟨-, hEq⟩ | ⟨hPackage, -, hEq⟩
  · rw [hEq]
  · rw [hEq, String.append_assoc, rootless_prefixed (Settings.isPackageName_of_check h hPackage)]

theorem rootless_classNames_iff {s : Settings} (h : s.check = .ok ()) (name : String) :
    (∀ n ∈ classNames s (s.qualify name), Rootless n) ↔
      ∀ x ∈ suffixes s, Rootless (name ++ x) := by
  simp only [classNames, List.forall_mem_map, rootless_qualify_iff h]

/-! ## Places below a directory -/

/-- The place lies below the one that the path leads to. -/
def FileTree.Below (t : FileTree) (path : String) (p : Place) : Prop :=
  ∃ q, t.walk (t.startOf path) (namesOf path) = .ok q ∧ q <:+ p ∧ q ≠ p

variable {σ : Type}

theorem namesOf_ne_nil {path : String} (hPath : path ≠ "")
    (hRelative : ¬ Path.isAbsolute path = true) : namesOf path ≠ [] := by
  intro hNone
  exact hRelative (isAbsolute_of_namesOf_eq_nil hPath hNone)

/-- A relative path that does not go up leads from a directory to files below it. -/
theorem FileTree.below_of_locate_join {t : FileTree} {output path : String} {p : Place}
    (hLocate : t.locate (Path.join output path) = .ok p) (hText : (t.textAt? p).isSome = true)
    (hPath : path ≠ "") (hRelative : ¬ Path.isAbsolute path = true)
    (hDown : ".." ∉ namesOf path) : t.Below output p := by
  obtain ⟨-, -, hWalk⟩ := walk_of_locate hLocate
  rw [startOf, isAbsolute_join hRelative, ← startOf, namesOf_join, if_neg hRelative,
    walk_append] at hWalk
  cases hOutput : t.walk (t.startOf output) (namesOf output) with
  | error fault =>
    rw [hOutput] at hWalk
    cases hWalk
  | ok q =>
    rw [hOutput] at hWalk
    refine ⟨q, hOutput, suffix_of_walk hDown hWalk, ?_⟩
    rintro rfl
    obtain ⟨name, names, hNames⟩ := List.exists_cons_of_ne_nil (namesOf_ne_nil hPath hRelative)
    change t.walk q (namesOf path) = .ok q at hWalk
    rw [hNames] at hWalk
    obtain ⟨_, hEnter, -⟩ := exists_enter_of_walk hWalk
    rw [textAt?_of_directory (enter_cases hEnter).1] at hText
    cases hText

theorem append_ne_empty (base : String) {part : String} (h : part ≠ "") : base ++ part ≠ "" := by
  intro hEmpty
  rw [← String.toList_eq_nil_iff, String.toList_append] at hEmpty
  exact h (String.toList_eq_nil_iff.mp (List.append_eq_nil_iff.mp hEmpty).2)

theorem sourcePath_ne_empty (c : ClassDecl) : c.sourcePath ≠ "" := by
  have hFile : c.localName ++ ".java" ≠ "" := append_ne_empty c.localName (by decide)
  rw [ClassDecl.sourcePath, Path.join]
  split
  · exact hFile
  · split <;> exact append_ne_empty _ hFile

namespace Ledger

variable {u : Setup σ} {w w' : World σ} {deeds : List (Deed σ)}

/-- A class with a relative path is written below the output directory. -/
theorem below_of_wrote (h : Ledger u w deeds w') {d : Deed σ} (hd : d ∈ deeds) {c : ClassDecl}
    {p : Place} (hAct : d.act = .placed c (.wrote p)) (hName : Rootless c.name) :
    w'.tree.Below u.job.output p := by
  have hMem : c ∈ deeds.filterMap (Deed.classAt? p) :=
    List.mem_filterMap.mpr ⟨d, hd, Deed.classAt?_eq_some_iff.mpr hAct⟩
  have hText : (w'.tree.textAt? p).isSome = true := by
    rw [h.textAt?, Option.isSome_or, Option.isSome_map,
      List.getLast?_isSome.mpr (List.ne_nil_of_mem hMem), Bool.true_or]
  have hRelative := (relative_sourcePath_iff c).mpr hName
  exact below_of_locate_join (h.locate_eq hd hAct) hText (sourcePath_ne_empty c)
    (Bool.eq_false_iff.mp hRelative) (up_not_mem_sourcePath c)

end Ledger

/-- The classes that a run places have the names of the classes of its types. -/
theorem Sound.exists_type_of_placed {u : Setup σ} {types : List BoundType} {w : World σ}
    {s : Stage σ} (h : Sound u types w s) {c : ClassDecl} (hPlaced : c ∈ placedOf s.deeds) :
    ∃ t ∈ types, c.name ∈ classNames u.settings (u.settings.qualify t.name) := by
  have hClasses : c ∈ (turnsOf s.deeds).flatMap Turn.classes :=
    h.placed ▸ List.mem_append_left s.waiting hPlaced
  obtain ⟨turn, hTurn, hClass⟩ := List.mem_flatMap.mp hClasses
  refine ⟨turn.type, ?_, ?_⟩
  · rw [← h.types]
    exact List.mem_append_left s.ahead (List.mem_map.mpr ⟨turn, hTurn, rfl⟩)
  · rw [Turn.classes] at hClass
    cases hResult : turn.result with
    | error e =>
      rw [hResult] at hClass
      cases hClass
    | ok classes =>
      rw [hResult] at hClass
      rw [← h.ledger.turns_eq] at hTurn
      rw [← History.names_of_turn _ _ _ hTurn hResult]
      exact List.mem_map.mpr ⟨c, hClass, rfl⟩

/-- Whatever a run came to, what it changed and what it lists as written lies below the output
directory. -/
structure Confined (output : String) (w : World σ) (r : Result σ (Except Failure Summary)) :
    Prop where
  changed : ∀ p, r.world.tree.textAt? p ≠ w.tree.textAt? p → r.world.tree.Below output p
  written : ∀ s, r.value = .ok s → ∀ path ∈ s.written,
    ∃ p, r.world.tree.locate path = .ok p ∧ r.world.tree.Below output p

theorem confined_runWith (u : Setup σ) (w : World σ) {types : List BoundType}
    (hCheck : u.settings.check = .ok ())
    (hNames : ∀ t ∈ types, ∀ x ∈ suffixes u.settings, Rootless (t.name ++ x)) :
    Confined u.job.output w
      ((runWith u.job (.ofStrategy u.settings u.strategy) types).run.eval u.dialog w) := by
  obtain ⟨last, hReaches, -, hEval⟩ := exists_stage u types w
  have hSound := Sound.of_reaches hReaches
  have hBelow : ∀ d ∈ last.deeds, ∀ c p, d.act = .placed c (.wrote p) →
      last.world.tree.Below u.job.output p := by
    intro d hd c p hAct
    have hPlaced : c ∈ placedOf last.deeds :=
      List.mem_filterMap.mpr ⟨d, hd, by rw [Deed.placed?, hAct]⟩
    obtain ⟨t, hType, hName⟩ := hSound.exists_type_of_placed hPlaced
    exact hSound.ledger.below_of_wrote hd hAct
      ((rootless_classNames_iff hCheck t.name).mpr (hNames t hType) c.name hName)
  rw [hEval]
  constructor
  · intro p hChanged
    obtain ⟨d, hd, c, hAct⟩ := hSound.ledger.exists_wrote hChanged
    exact hBelow d hd c p hAct
  · intro s hOk path hPath
    rw [(tally_of_verdict hOk).written] at hPath
    obtain ⟨d, hd, hWritten⟩ := List.mem_filterMap.mp hPath
    obtain ⟨c, p, hAct, rfl⟩ := Deed.written?_eq_some_iff.mp hWritten
    exact ⟨p, hSound.ledger.locate_eq hd hAct, hBelow d hd c p hAct⟩

theorem confined_run (job : Job) {s : Settings} (dialog : Dialog σ) (w : World σ)
    (hCheck : s.check = .ok ())
    (hNames : ∀ types, modelIn w.tree job.model = .ok types →
      ∀ t ∈ types, ∀ x ∈ suffixes s, Rootless (t.name ++ x)) :
    Confined job.output w ((run job s).run.eval dialog w) := by
  rcases run_cases dialog w job s with ⟨failure, trace, hFailed, -⟩ |
    ⟨types, strategy, hModel, -, hEval⟩
  · rw [hFailed]
    refine ⟨fun p hChanged => absurd rfl hChanged, ?_⟩
    intro _ hOk
    cases hOk
  · rw [hEval]
    have hConfined := confined_runWith ⟨job, s, strategy, dialog⟩ w hCheck (hNames types hModel)
    exact ⟨hConfined.changed, hConfined.written⟩

/-- With settings that pass their check, the paths of the classes of a type never go up, and they
are relative exactly if no part of the names of the classes starts with a slash. A run over a model
of which this holds writes nothing but below the output directory. -/
theorem stays_below_output {s : Settings} (hCheck : s.check = .ok ()) :
    (∀ (g : Generator) (t : BoundType) (dialog : Option (Dialog σ)) (source : σ)
      (classes : List ClassDecl), g.settings = s →
      ((g.generate t).answer dialog source).value.2 = .ok classes →
        (∀ c ∈ classes, ".." ∉ namesOf c.sourcePath) ∧
        ((∀ c ∈ classes, Path.isAbsolute c.sourcePath = false) ↔
          ∀ x ∈ suffixes s, Rootless (t.name ++ x))) ∧
    ∀ (job : Job) (dialog : Dialog σ) (w : World σ),
      (∀ types, modelIn w.tree job.model = .ok types →
        ∀ t ∈ types, ∀ x ∈ suffixes s, Rootless (t.name ++ x)) →
      Confined job.output w ((run job s).run.eval dialog w) := by
  constructor
  · rintro g t dialog source classes rfl hOk
    refine ⟨fun c _ => up_not_mem_sourcePath c, ?_⟩
    have hNames := (generate_step g t dialog source).names_of_ok hOk
    rw [name_qualifiedType] at hNames
    rw [← rootless_classNames_iff hCheck, ← hNames, List.forall_mem_map]
    simp only [relative_sourcePath_iff]
  · intro job dialog w hNames
    exact confined_run job dialog w hCheck hNames

/-- Settings that put every class into a package. -/
def packaged : Settings :=
  { Settings.standard with package := "shop.model" }

/-- A model of one type, and nothing else. -/
def modelTree : FileTree :=
  (FileTree.withWorkingDirectory ["work"]).withFile "m.json" "[\x7b\"name\":\"Order\"\x7d]"

theorem stays_below_output_packaged :
    packaged.check = .ok () ∧
    (∃ classes, (((Generator.ofStrategy packaged .informViaLog).generate (.ofName "Order")).answer
        (none : Option (Dialog Unit)) ()).value.2 = .ok classes ∧
      ∀ c ∈ classes, Path.isAbsolute c.sourcePath = false) ∧
    (∃ types, modelIn modelTree "m.json" = .ok types ∧ types.map (·.name) = ["Order"]) ∧
    Confined "out" ⟨modelTree, []⟩
      ((run ⟨"m.json", "out", false⟩ packaged).run.eval Terminal.confirm ⟨modelTree, []⟩) := by
  have hCheck : packaged.check = .ok () := by decide +kernel
  have hOrder : ∀ x ∈ suffixes packaged, Rootless ("Order" ++ x) := by decide +kernel
  have hSome : (((Generator.ofStrategy packaged .informViaLog).generate (.ofName "Order")).answer
      (none : Option (Dialog Unit)) ()).value.2.toOption.isSome = true := by decide +kernel
  have hModel : (modelIn modelTree "m.json").toOption.map (·.map (·.name)) = some ["Order"] := by
    decide +kernel
  obtain ⟨classes, hOk⟩ := exists_ok_of_isSome hSome
  obtain ⟨types, hRead, hTypes⟩ : ∃ types, modelIn modelTree "m.json" = .ok types ∧
      types.map (·.name) = ["Order"] := by
    cases hRead : modelIn modelTree "m.json" with
    | error failure =>
      rw [hRead] at hModel
      cases hModel
    | ok types =>
      rw [hRead] at hModel
      exact ⟨types, rfl, Option.some.inj hModel⟩
  refine ⟨hCheck, ⟨classes, hOk, ?_⟩, ⟨types, hRead, hTypes⟩, ?_⟩
  · exact ((stays_below_output hCheck).1 _ _ none () classes rfl hOk).2.mpr hOrder
  · refine (stays_below_output hCheck).2 ⟨"m.json", "out", false⟩ Terminal.confirm
      ⟨modelTree, []⟩ ?_
    intro types' hRead' t hType
    cases hRead.symm.trans hRead'
    have hName : t.name ∈ types.map (·.name) := List.mem_map.mpr ⟨t, hType, rfl⟩
    rw [hTypes, List.mem_singleton] at hName
    rw [hName]
    exact hOrder

/-- A name that starts with a slash is a path from the root. -/
theorem rooted_name_leaves_output :
    ¬ ∀ (g : Generator) (t : BoundType) (classes : List ClassDecl), g.settings.check = .ok () →
      ((g.generate t).answer (none : Option (Dialog Unit)) ()).value.2 = .ok classes →
      ∀ c ∈ classes, Path.isAbsolute c.sourcePath = false := by
  intro h
  have hSome : (((Generator.ofStrategy .standard .informViaLog).generate (.ofName "/Order")).answer
      (none : Option (Dialog Unit)) ()).value.2.toOption.isSome = true := by decide +kernel
  obtain ⟨classes, hOk⟩ := exists_ok_of_isSome hSome
  have hCheck : Settings.standard.check = .ok () := by decide +kernel
  have hRelative := h _ _ classes hCheck hOk
  have hNames := (generate_step _ _ _ _).names_of_ok hOk
  have hRooted : "/Order" ∈ classes.map (·.name) := by
    rw [hNames]
    decide +kernel
  obtain ⟨c, hc, hName⟩ := List.mem_map.mp hRooted
  have hRootless := (relative_sourcePath_iff c).mp (hRelative c hc)
  rw [hName] at hRootless
  exact absurd hRootless (by decide +kernel)

end BeanGen.Run
