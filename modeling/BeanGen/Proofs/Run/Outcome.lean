import BeanGen.Proofs.Run.Account

/-!
# What a run accounts for

A run reads its model and selects its strategy, and if either fails it has done nothing. Otherwise
there are deeds that explain all it comes to: its summary counts every type and every class, each
file it did not write holds what it held before, and each file it wrote holds the last class that
was written there.
-/

namespace BeanGen.Run

open Conflict Generation Java

variable {σ : Type}

/-- What a run over some types comes to, explained by its deeds. -/
structure Account (u : Setup σ) (types : List BoundType) (w : World σ) (deeds : List (Deed σ))
    (r : Result σ (Except Failure Summary)) : Prop where
  ledger : Ledger u w deeds r.world
  value : r.value = verdict u.job deeds
  trace : ∃ events : List Event, r.trace = events.map .noted ++ traceOf deeds
  /-- The turns are those of a generator that is passed the types one after another. -/
  turns : (u.history deeds).turns = turnsOf deeds
  complete {s : Summary} : r.value = .ok s → (turnsOf deeds).map (·.type) = types ∧
    placedOf deeds = (turnsOf deeds).flatMap Turn.classes
  counts {s : Summary} : r.value = .ok s → s.types + s.aborted.length = types.length ∧
    s.written.length + s.kept.length = ((turnsOf deeds).flatMap Turn.classes).length
  untouched {s : Summary} : r.value = .ok s → ∀ p,
    (∀ path ∈ s.written, r.world.tree.locate path ≠ .ok p) →
      r.world.tree.textAt? p = w.tree.textAt? p
  written {s : Summary} : r.value = .ok s → ∀ path ∈ s.written, ∃ p c,
    r.world.tree.locate path = .ok p ∧ (deeds.filterMap (Deed.classAt? p)).getLast? = some c ∧
      r.world.tree.readText path = .ok c.render
  kept {s : Summary} : r.value = .ok s → ∀ path ∈ s.kept, ∃ d ∈ deeds, d.kept? u.job = some path
  keeps : ∀ d ∈ deeds, ∀ path, d.kept? u.job = some path →
    d.before.tree.contains path = true ∧ d.after.tree = d.before.tree
  /-- Where replacing is forced nothing is kept, and nothing happens over a class but that it is
  written: no question is asked. -/
  forced : u.job.force = true → (∀ s, r.value = .ok s → s.kept = []) ∧
    ∀ d ∈ deeds, ∀ c, d.placed? = some c → d.after.source = d.before.source ∧
      ∀ happening ∈ d.trace, happening = .wrote (u.job.pathOf c) c.render
  /-- An error at a type leaves alone every file but those of the types before it. -/
  refused {name : String} {e : BindError} : r.value = .error (.typeNotGenerated name e) →
    ∃ earlier turn later, turnsOf deeds = earlier ++ [turn] ∧ turn.result = .error e ∧
      turn.type.name = name ∧ types = earlier.map (·.type) ++ turn.type :: later ∧
      ∀ p, r.world.tree.textAt? p ≠ w.tree.textAt? p →
        ∃ c ∈ earlier.flatMap Turn.classes, r.world.tree.locate (u.job.pathOf c) = .ok p
  /-- Any other error means that an operation on files has failed. -/
  failed {failure : Failure} : r.value = .error failure →
    (∃ name e, failure = .typeNotGenerated name e) ∨ failure.OfFiles r.world.tree

namespace Ledger

variable {u : Setup σ} {w w' : World σ} {deeds : List (Deed σ)}

/-- What changed at a place was written there, by a deed that placed a class. -/
theorem exists_wrote (h : Ledger u w deeds w') {p : Place}
    (hChanged : w'.tree.textAt? p ≠ w.tree.textAt? p) :
    ∃ d ∈ deeds, ∃ c, d.act = .placed c (.wrote p) := by
  rw [h.textAt?] at hChanged
  cases hLast : (deeds.filterMap (Deed.classAt? p)).getLast? with
  | none =>
    rw [hLast] at hChanged
    exact absurd rfl hChanged
  | some c =>
    obtain ⟨d, hd, hClass⟩ := List.mem_filterMap.mp (List.mem_of_getLast? hLast)
    exact ⟨d, hd, c, Deed.classAt?_eq_some_iff.mp hClass⟩

theorem exists_placed (h : Ledger u w deeds w') {p : Place}
    (hChanged : w'.tree.textAt? p ≠ w.tree.textAt? p) :
    ∃ c ∈ placedOf deeds, w'.tree.locate (u.job.pathOf c) = .ok p := by
  obtain ⟨d, hd, c, hAct⟩ := h.exists_wrote hChanged
  refine ⟨c, List.mem_filterMap.mpr ⟨d, hd, ?_⟩, h.locate_eq hd hAct⟩
  rw [Deed.placed?, hAct]

theorem untouched (h : Ledger u w deeds w') {s : Summary} (hTally : Tally u.job deeds s) {p : Place}
    (hNot : ∀ path ∈ s.written, w'.tree.locate path ≠ .ok p) :
    w'.tree.textAt? p = w.tree.textAt? p := by
  by_contra hChanged
  obtain ⟨d, hd, c, hAct⟩ := h.exists_wrote hChanged
  refine hNot (u.job.pathOf c) ?_ (h.locate_eq hd hAct)
  rw [hTally.written]
  exact List.mem_filterMap.mpr ⟨d, hd, Deed.written?_eq_some_iff.mpr ⟨c, p, hAct, rfl⟩⟩

/-- A file that was written reads as the last class that was written there. -/
theorem written (h : Ledger u w deeds w') {s : Summary} (hTally : Tally u.job deeds s)
    {path : String} (hPath : path ∈ s.written) :
    ∃ p c, w'.tree.locate path = .ok p ∧ (deeds.filterMap (Deed.classAt? p)).getLast? = some c ∧
      w'.tree.readText path = .ok c.render := by
  rw [hTally.written] at hPath
  obtain ⟨d, hd, hWritten⟩ := List.mem_filterMap.mp hPath
  obtain ⟨c, p, hAct, rfl⟩ := Deed.written?_eq_some_iff.mp hWritten
  have hLocate := h.locate_eq hd hAct
  obtain ⟨earlier, hDoes, -⟩ := h.of_mem hd
  have hMem : c ∈ deeds.filterMap (Deed.classAt? p) :=
    List.mem_filterMap.mpr ⟨d, hd, Deed.classAt?_eq_some_iff.mpr hAct⟩
  obtain ⟨last, hLast⟩ := Option.isSome_iff_exists.mp
    (List.getLast?_isSome.mpr (List.ne_nil_of_mem hMem))
  refine ⟨p, last, hLocate, hLast, ?_⟩
  have hText : w'.tree.textAt? p = some last.render := by
    rw [h.textAt?, hLast]
    rfl
  exact FileTree.readText_of_textAt? hLocate hText (hDoes.locates hAct).2

theorem keeps_of_kept (h : Ledger u w deeds w') {d : Deed σ} (hd : d ∈ deeds) {path : String}
    (hKept : d.kept? u.job = some path) :
    d.before.tree.contains path = true ∧ d.after.tree = d.before.tree ∧ u.job.force = false := by
  obtain ⟨c, hAct, rfl⟩ := Deed.kept?_eq_some_iff.mp hKept
  obtain ⟨earlier, hDoes, -⟩ := h.of_mem hd
  obtain ⟨leave, hLeave, hValue, hAfter, -⟩ := (hDoes.placing hAct).of_kept
  obtain ⟨hThere, hUnforced⟩ := hLeave.of_false hValue
  refine ⟨hThere, ?_, hUnforced⟩
  rw [hAfter, hLeave.tree_eq]

end Ledger

/-! ## Questions over a class -/

theorem Leave.unasked_of_force {job : Job} {strategy : Strategy} {dialog : Dialog σ} {path : String}
    {w : World σ} {r : Result σ Bool} (h : Leave job strategy dialog path w r)
    (hForce : job.force = true) : r = ⟨true, w, []⟩ := by
  cases h with
  | unasked => rfl
  | asked _ hUnforced => cases hForce.symm.trans hUnforced

theorem Placing.unasked_of_force {job : Job} {strategy : Strategy} {dialog : Dialog σ}
    {c : ClassDecl} {w w' : World σ} {fate : Fate} {trace : List Happening}
    (h : Placing job strategy dialog c w fate w' trace) (hForce : job.force = true) :
    w'.source = w.source ∧ ∀ happening ∈ trace, happening = .wrote (job.pathOf c) c.render := by
  cases h with
  | granted hLeave _ hStoring =>
    cases hLeave.unasked_of_force hForce
    cases hStoring <;> simp
  | denied hLeave hValue =>
    cases hLeave.unasked_of_force hForce
    cases hValue

namespace Ledger

variable {u : Setup σ} {w w' : World σ} {deeds : List (Deed σ)}

theorem none_kept (h : Ledger u w deeds w') (hForce : u.job.force = true) :
    deeds.filterMap (Deed.kept? u.job) = [] := by
  rw [List.filterMap_eq_nil_iff]
  intro d hd
  by_contra hKept
  obtain ⟨path, hKept⟩ := Option.ne_none_iff_exists'.mp hKept
  cases hForce.symm.trans (h.keeps_of_kept hd hKept).2.2

theorem unasked_of_force (h : Ledger u w deeds w') (hForce : u.job.force = true) {d : Deed σ}
    (hd : d ∈ deeds) {c : ClassDecl} (hPlaced : d.placed? = some c) :
    d.after.source = d.before.source ∧
      ∀ happening ∈ d.trace, happening = .wrote (u.job.pathOf c) c.render := by
  obtain ⟨earlier, hDoes, -⟩ := h.of_mem hd
  cases hDoes with
  | turn => cases hPlaced
  | place hPlacing =>
    cases hPlaced
    exact hPlacing.unasked_of_force hForce

end Ledger

/-! ## The last deed of a run that fails -/

theorem error_of_enter {turn : Turn} {s : Summary} {failure : Failure}
    (h : turn.enter s = .error failure) :
    ∃ e, turn.result = .error e ∧ failure = .typeNotGenerated turn.type.name e := by
  rw [Turn.enter] at h
  split at h
  · cases h
  · cases h
  · rename_i e _ hResult
    cases h
    exact ⟨e, hResult, rfl⟩

namespace Sound

variable {u : Setup σ} {types : List BoundType} {w : World σ} {s : Stage σ}

/-- A run that fails does so at a type, or an operation on files fails for a class. -/
theorem exists_failing (h : Sound u types w s) {failure : Failure}
    (hVerdict : verdict u.job s.deeds = .error failure) :
    (∃ earlier d turn e, s.deeds = earlier ++ [d] ∧ d.act = .turned turn ∧ turn.result = .error e ∧
        failure = .typeNotGenerated turn.type.name e) ∨ failure.OfFiles s.world.tree := by
  obtain ⟨earlier, d, summary, hDeeds, -, hEnter⟩ := h.exists_last hVerdict
  rw [Deed.enter] at hEnter
  split at hEnter
  · rename_i turn hAct
    obtain ⟨e, hResult, hFailure⟩ := error_of_enter hEnter
    exact .inl ⟨earlier, d, turn, e, hDeeds, hAct, hResult, hFailure⟩
  · rename_i c fate hAct
    have hLedger := h.ledger
    rw [hDeeds] at hLedger
    obtain ⟨-, hDoes, -⟩ := hLedger.of_split
    cases fate with
    | wrote p => cases hEnter
    | kept => cases hEnter
    | failed failure =>
      cases hEnter
      rw [hLedger.after_eq]
      exact .inr (hDoes.placing hAct).of_failed.2

/-- An error at a type comes with its turn, and only the types before it have classes to place. -/
theorem refused (h : Sound u types w s) {name : String} {e : BindError}
    (hVerdict : verdict u.job s.deeds = .error (.typeNotGenerated name e)) :
    ∃ earlier turn later, turnsOf s.deeds = earlier ++ [turn] ∧ turn.result = .error e ∧
      turn.type.name = name ∧ types = earlier.map (·.type) ++ turn.type :: later ∧
      ∀ c ∈ placedOf s.deeds, c ∈ earlier.flatMap Turn.classes := by
  rcases h.exists_failing hVerdict with
    ⟨earlier, d, turn, e', hDeeds, hAct, hResult, hFailure⟩ | hFiles
  · cases hFailure
    have hTurns : turnsOf s.deeds = turnsOf earlier ++ [turn] := by
      rw [hDeeds, turnsOf_append_singleton, Deed.turn?, hAct]
      rfl
    refine ⟨turnsOf earlier, turn, s.ahead, hTurns, hResult, rfl, ?_, ?_⟩
    · rw [← h.types, hTurns]
      simp
    · -- the last turn has no classes, so those that were placed came of earlier ones
      have hNone : turn.classes = [] := by
        rw [Turn.classes, hResult]
        rfl
      intro c hc
      have hPlaced := h.placed
      rw [hTurns, List.flatMap_append, List.flatMap_singleton, hNone, List.append_nil] at hPlaced
      rw [← hPlaced]
      exact List.mem_append_left s.waiting hc
  · cases hFiles

theorem failed (h : Sound u types w s) {failure : Failure}
    (hVerdict : verdict u.job s.deeds = .error failure) :
    (∃ name e, failure = .typeNotGenerated name e) ∨ failure.OfFiles s.world.tree := by
  rcases h.exists_failing hVerdict with ⟨_, _, turn, e, _, _, _, hFailure⟩ | hFiles
  · exact .inl ⟨turn.type.name, e, hFailure⟩
  · exact .inr hFiles

end Sound

theorem exists_account (u : Setup σ) (types : List BoundType) (w : World σ) :
    ∃ deeds, Account u types w deeds
      ((runWith u.job (.ofStrategy u.settings u.strategy) types).run.eval u.dialog w) := by
  obtain ⟨last, hReaches, hHalted, hEval⟩ := exists_stage u types w
  have hSound := Sound.of_reaches hReaches
  refine ⟨last.deeds, ?_⟩
  rw [hEval]
  constructor
  · exact hSound.ledger
  · rfl
  · exact ⟨[_], rfl⟩
  · exact hSound.ledger.turns_eq
  · exact hSound.of_finished hHalted
  · intro s hOk
    have hTally := tally_of_verdict hOk
    obtain ⟨hTypes, hPlaced⟩ := hSound.of_finished hHalted hOk
    rw [hTally.length_eq, hTally.placed, ← hPlaced, ← hTypes, List.length_map]
    exact ⟨rfl, rfl⟩
  · intro s hOk p hNot
    exact hSound.ledger.untouched (tally_of_verdict hOk) hNot
  · intro s hOk path hPath
    exact hSound.ledger.written (tally_of_verdict hOk) hPath
  · intro s hOk path hPath
    rw [(tally_of_verdict hOk).kept] at hPath
    exact List.mem_filterMap.mp hPath
  · intro d hd path hKept
    obtain ⟨hThere, hSame, -⟩ := hSound.ledger.keeps_of_kept hd hKept
    exact ⟨hThere, hSame⟩
  · intro hForce
    constructor
    · intro s hOk
      rw [(tally_of_verdict hOk).kept]
      exact hSound.ledger.none_kept hForce
    · intro d hd c hPlaced
      exact hSound.ledger.unasked_of_force hForce hd hPlaced
  · intro name e hRefused
    obtain ⟨earlier, turn, later, hTurns, hResult, hName, hTypes, hClasses⟩ :=
      hSound.refused hRefused
    refine ⟨earlier, turn, later, hTurns, hResult, hName, hTypes, ?_⟩
    intro p hChanged
    obtain ⟨c, hc, hLocate⟩ := hSound.ledger.exists_placed hChanged
    exact ⟨c, hClasses c hc, hLocate⟩
  · exact hSound.failed

/-! ## Before the first type -/

/-- The model that a path leads to, or why there is none. -/
def modelIn (tree : FileTree) (path : String) : Except Failure (List BoundType) :=
  match tree.readText path with
  | .ok text => (readModel text).mapError (.modelNotValid path)
  | .error fault => .error (.modelNotRead path fault)

/-- The strategies that some settings list, and what is reported over them. -/
def listed (s : Settings) : Registry × List Event :=
  Registry.ofText .builtin s.conflictStrategies

section Loading

variable (dialog : Dialog σ) (w : World σ)

theorem Task.eval_ofExcept {α : Type} (failure : BindError → Failure) (x : Except BindError α) :
    (ofExcept failure x).run.eval dialog w = ⟨x.mapError failure, w, []⟩ := by
  cases x <;> rfl

theorem eval_loadModel (path : String) :
    (loadModel path).run.eval dialog w = ⟨modelIn w.tree path, w, []⟩ := by
  have hLoad : (Program.load path).eval dialog w = ⟨w.tree.readText path, w, []⟩ := rfl
  rw [loadModel, modelIn]
  cases hText : w.tree.readText path with
  | ok text =>
    rw [hText] at hLoad
    rw [Task.eval_andThen_of_ok _ _ (Task.eval_ofOutcome_of_ok _ _ hLoad _), Task.eval_ofExcept]
    rfl
  | error fault =>
    rw [hText] at hLoad
    exact Task.eval_andThen_of_error _ _ (Task.eval_ofOutcome_of_error _ _ hLoad _) _

theorem answer_reportAll (dialog : Option (Dialog σ)) (events : List Event) (source : σ) :
    (Inquiry.reportAll events).answer dialog source = ⟨(), source, events.map .noted⟩ := by
  induction events with
  | nil => rfl
  | cons e events ih =>
    rw [Inquiry.reportAll, Inquiry.answer, ih]
    rfl

theorem eval_registryOf (s : Settings) :
    (registryOf s).eval dialog w = ⟨(listed s).1, w, (listed s).2.map .noted⟩ := by
  have hRegistry : registryOf s = Program.ofInquiry (Inquiry.reportAll (listed s).2) >>=
      fun _ => pure (listed s).1 := rfl
  rw [hRegistry, Program.eval_andThen, Program.eval_ofInquiry, answer_reportAll]
  simp [Result.after]

/-- A run stops over its model or its strategy, or it goes on as a run over types. -/
theorem run_cases (job : Job) (s : Settings) :
    (∃ failure trace, (run job s).run.eval dialog w = ⟨.error failure, w, trace⟩ ∧
      (modelIn w.tree job.model = .error failure ∨
        ∃ e, (listed s).1.lookup s.conflictStrategy = .error e ∧
          failure = .strategyNotSelected e)) ∨
    ∃ types strategy, modelIn w.tree job.model = .ok types ∧
      (listed s).1.lookup s.conflictStrategy = .ok strategy ∧
      (run job s).run.eval dialog w =
        ((runWith job (.ofStrategy s strategy) types).run.eval dialog w).after
          ((listed s).2.map .noted) := by
  have hLoad := eval_loadModel dialog w job.model
  rw [run]
  cases hModel : modelIn w.tree job.model with
  | error failure =>
    rw [hModel] at hLoad
    exact .inl ⟨failure, [], Task.eval_andThen_of_error _ _ hLoad _, .inl rfl⟩
  | ok types =>
    rw [hModel] at hLoad
    rw [Task.eval_andThen_of_ok _ _ hLoad, Task.eval_ofProgram_andThen, eval_registryOf]
    dsimp only
    have hSelect := Task.eval_ofExcept dialog w .strategyNotSelected
      (Generator.ofRegistry s (listed s).1)
    rw [Generator.ofRegistry] at hSelect ⊢
    cases hLookup : (listed s).1.lookup s.conflictStrategy with
    | error e =>
      rw [hLookup] at hSelect
      rw [Task.eval_andThen_of_error _ _ hSelect]
      exact .inl ⟨_, _, rfl, .inr ⟨e, rfl, rfl⟩⟩
    | ok strategy =>
      rw [hLookup] at hSelect
      rw [Task.eval_andThen_of_ok _ _ hSelect]
      exact .inr ⟨types, strategy, rfl, rfl, rfl⟩

end Loading

theorem Account.after {u : Setup σ} {types : List BoundType} {w : World σ} {deeds : List (Deed σ)}
    {r : Result σ (Except Failure Summary)} (h : Account u types w deeds r) (events : List Event) :
    Account u types w deeds (r.after (events.map .noted)) := by
  obtain ⟨events', hTrace⟩ := h.trace
  refine { h with trace := ⟨events ++ events', ?_⟩ }
  rw [Result.after, hTrace]
  simp

/-- Whatever the strategy, the dialog, the settings and the files are, a run over types accounts for
all it comes to; and a run that reads its model and selects its strategy is one of these, or has
done nothing but fail. -/
theorem accounts_for_every_file (job : Job) (s : Settings) (dialog : Dialog σ) (w : World σ) :
    (∀ strategy types, ∃ deeds, Account ⟨job, s, strategy, dialog⟩ types w deeds
      ((runWith job (.ofStrategy s strategy) types).run.eval dialog w)) ∧
    ((∃ failure trace, (run job s).run.eval dialog w = ⟨.error failure, w, trace⟩ ∧
        (modelIn w.tree job.model = .error failure ∨
          ∃ e, (listed s).1.lookup s.conflictStrategy = .error e ∧
            failure = .strategyNotSelected e)) ∨
      ∃ types strategy deeds, modelIn w.tree job.model = .ok types ∧
        (listed s).1.lookup s.conflictStrategy = .ok strategy ∧
        Account ⟨job, s, strategy, dialog⟩ types w deeds ((run job s).run.eval dialog w)) := by
  constructor
  · intro strategy types
    exact exists_account ⟨job, s, strategy, dialog⟩ types w
  · rcases run_cases dialog w job s with hFailed | ⟨types, strategy, hModel, hLookup, hEval⟩
    · exact .inl hFailed
    · obtain ⟨deeds, hAccount⟩ := exists_account ⟨job, s, strategy, dialog⟩ types w
      refine .inr ⟨types, strategy, deeds, hModel, hLookup, ?_⟩
      rw [hEval]
      exact hAccount.after (listed s).2

end BeanGen.Run
