import BeanGen.Proofs.Run.Ledger
import Mathlib.Data.List.Induction

/-!
# What a run leaves behind

What a place holds after a run is what the last deed that wrote there put there, or else what it
held before: a turn changes no file, a class that is kept changes none either, and directories that
are made hold no text. The summary counts the deeds, and the deeds are those that the model asks
for, up to the first one that fails.
-/

namespace BeanGen.Run

open Conflict Generation Java

variable {σ : Type}

/-- The types that some deeds passed to the generator, and what came of them. -/
def turnsOf (deeds : List (Deed σ)) : List Turn :=
  deeds.filterMap Deed.turn?

def placedOf (deeds : List (Deed σ)) : List ClassDecl :=
  deeds.filterMap Deed.placed?

@[simp] theorem turnsOf_append_singleton (deeds : List (Deed σ)) (d : Deed σ) :
    turnsOf (deeds ++ [d]) = turnsOf deeds ++ d.turn?.toList := by
  cases hTurn : d.turn? <;> simp [turnsOf, hTurn]

@[simp] theorem placedOf_append_singleton (deeds : List (Deed σ)) (d : Deed σ) :
    placedOf (deeds ++ [d]) = placedOf deeds ++ d.placed?.toList := by
  cases hPlaced : d.placed? <;> simp [placedOf, hPlaced]

namespace Deed

/-- The class that a deed writes to a place. -/
def classAt? (p : Place) (d : Deed σ) : Option ClassDecl :=
  match d.act with
  | .placed c (.wrote q) => if q = p then some c else none
  | _ => none

def written? (job : Job) (d : Deed σ) : Option String :=
  match d.act with
  | .placed c (.wrote _) => some (job.pathOf c)
  | _ => none

def kept? (job : Job) (d : Deed σ) : Option String :=
  match d.act with
  | .placed c .kept => some (job.pathOf c)
  | _ => none

theorem classAt?_eq_some_iff {p : Place} {d : Deed σ} {c : ClassDecl} :
    d.classAt? p = some c ↔ d.act = .placed c (.wrote p) := by
  obtain ⟨act, before, after, trace⟩ := d
  rcases act with turn | ⟨c', q | _ | failure⟩
  · simp [classAt?]
  · by_cases hq : q = p <;> simp [classAt?, hq]
  · simp [classAt?]
  · simp [classAt?]

theorem written?_eq_some_iff {job : Job} {d : Deed σ} {path : String} :
    d.written? job = some path ↔ ∃ c p, d.act = .placed c (.wrote p) ∧ job.pathOf c = path := by
  obtain ⟨act, before, after, trace⟩ := d
  rcases act with turn | ⟨c', q | _ | failure⟩ <;> simp [written?]

theorem kept?_eq_some_iff {job : Job} {d : Deed σ} {path : String} :
    d.kept? job = some path ↔ ∃ c, d.act = .placed c .kept ∧ job.pathOf c = path := by
  obtain ⟨act, before, after, trace⟩ := d
  rcases act with turn | ⟨c', q | _ | failure⟩ <;> simp [kept?]

end Deed

/-! ## What a deed does to the files -/

section Does

variable {u : Setup σ} {earlier : List (Deed σ)} {d : Deed σ}

theorem Does.placing (h : Does u earlier d) {c : ClassDecl} {fate : Fate}
    (hAct : d.act = .placed c fate) :
    Placing u.job u.strategy u.dialog c d.before fate d.after d.trace := by
  cases h with
  | turn => cases hAct
  | place hPlacing =>
    cases hAct
    exact hPlacing

theorem Does.turnDeed (h : Does u earlier d) {turn : Turn} (hAct : d.act = .turned turn) :
    d = u.turnDeed (u.generator earlier) turn.type d.before := by
  cases h with
  | turn t w =>
    cases hAct
    rfl
  | place => cases hAct

theorem Does.keeps (h : Does u earlier d) : d.before.tree.Keeps d.after.tree := by
  cases h with
  | turn t w => exact .refl w.tree
  | @place c fate w w' trace hPlacing =>
    cases fate with
    | wrote p =>
      obtain ⟨_, made, _, _, hMakes, _, _, hStores, _, _⟩ := hPlacing.of_wrote
      exact hMakes.keeps.trans hStores.keeps
    | kept =>
      obtain ⟨leave, hLeave, _, rfl, _⟩ := hPlacing.of_kept
      dsimp only
      rw [hLeave.tree_eq]
      exact .refl w.tree
    | failed failure => exact hPlacing.of_failed.1.keeps

theorem Does.textAt? (h : Does u earlier d) (p : Place) :
    d.after.tree.textAt? p =
      ((d.classAt? p).map ClassDecl.render).or (d.before.tree.textAt? p) := by
  cases h with
  | turn t w => rfl
  | @place c fate w w' trace hPlacing =>
    cases fate with
    | wrote q =>
      obtain ⟨_, made, _, _, hMakes, _, _, hStores, _, _⟩ := hPlacing.of_wrote
      dsimp only [Deed.classAt?]
      rw [hStores.textAt?, hMakes.textAt?]
      by_cases hp : p = q
      · rw [if_pos hp, if_pos hp.symm]
        rfl
      · rw [if_neg hp, if_neg (Ne.symm hp)]
        rfl
    | kept =>
      obtain ⟨leave, hLeave, _, rfl, _⟩ := hPlacing.of_kept
      exact FileTree.textAt?_eq_of_node?_eq (congrArg (·.node? p) hLeave.tree_eq)
    | failed failure => exact hPlacing.of_failed.1.textAt? p

/-- Where a class has been written its path leads from then on, and it asks for no directory. -/
theorem Does.locates (h : Does u earlier d) {c : ClassDecl} {p : Place}
    (hAct : d.act = .placed c (.wrote p)) :
    d.after.tree.locate (u.job.pathOf c) = .ok p ∧
      FileTree.asksDirectory (u.job.pathOf c) = false := by
  obtain ⟨_, made, _, _, _, hLocate, hFile, hStores, _, _⟩ := (h.placing hAct).of_wrote
  exact ⟨hStores.keeps.locate_eq hLocate, hFile⟩

end Does

/-! ## What a ledger does to the files -/

namespace Ledger

variable {u : Setup σ} {w w' : World σ} {deeds : List (Deed σ)}

theorem keeps (h : Ledger u w deeds w') : w.tree.Keeps w'.tree := by
  induction h with
  | nil => exact .refl w.tree
  | snoc _ hDoes ih => exact ih.trans hDoes.keeps

/-- What a place holds in the end was written there last, or it was there before. -/
theorem textAt? (h : Ledger u w deeds w') (p : Place) :
    w'.tree.textAt? p =
      ((deeds.filterMap (Deed.classAt? p)).getLast?.map ClassDecl.render).or
        (w.tree.textAt? p) := by
  induction h with
  | nil => rfl
  | @snoc deeds d _ hDoes ih =>
    rw [hDoes.textAt?, ih, List.filterMap_append]
    cases hClass : d.classAt? p <;> simp [hClass]

/-- Every deed is done in the world that those before it leave, and its files stay files. -/
theorem of_split {earlier later : List (Deed σ)} {d : Deed σ}
    (h : Ledger u w (earlier ++ d :: later) w') :
    Ledger u w earlier d.before ∧ Does u earlier d ∧ d.after.tree.Keeps w'.tree := by
  generalize hDeeds : earlier ++ d :: later = deeds at h
  induction h generalizing later with
  | nil => simp at hDeeds
  | @snoc deeds last hLedger hDoes ih =>
    rcases List.eq_nil_or_concat later with rfl | ⟨rest, last', rfl⟩
    · obtain ⟨rfl, hLast⟩ := List.append_inj' hDeeds rfl
      cases hLast
      exact ⟨hLedger, hDoes, .refl _⟩
    · rw [List.concat_eq_append, ← List.cons_append, ← List.append_assoc] at hDeeds
      obtain ⟨hRest, hLast⟩ := List.append_inj' hDeeds rfl
      cases hLast
      obtain ⟨hEarlier, hThen, hKeeps⟩ := ih hRest
      exact ⟨hEarlier, hThen, hKeeps.trans hDoes.keeps⟩

theorem after_eq {d : Deed σ} (h : Ledger u w (deeds ++ [d]) w') : w' = d.after := by
  generalize hDeeds : deeds ++ [d] = all at h
  cases h with
  | nil => simp at hDeeds
  | snoc _ _ =>
    obtain ⟨-, hLast⟩ := List.append_inj' hDeeds rfl
    cases hLast
    rfl

theorem of_mem (h : Ledger u w deeds w') {d : Deed σ} (hd : d ∈ deeds) :
    ∃ earlier, Does u earlier d ∧ d.after.tree.Keeps w'.tree := by
  obtain ⟨earlier, later, rfl⟩ := List.append_of_mem hd
  obtain ⟨-, hDoes, hKeeps⟩ := h.of_split
  exact ⟨earlier, hDoes, hKeeps⟩

theorem locate_eq (h : Ledger u w deeds w') {d : Deed σ} (hd : d ∈ deeds) {c : ClassDecl}
    {p : Place} (hAct : d.act = .placed c (.wrote p)) :
    w'.tree.locate (u.job.pathOf c) = .ok p := by
  obtain ⟨earlier, hDoes, hKeeps⟩ := h.of_mem hd
  exact hKeeps.locate_eq (hDoes.locates hAct).1

end Ledger

/-! ## What a summary counts -/

theorem exists_enter_of_verdict {job : Job} {deeds : List (Deed σ)} {d : Deed σ} {s : Summary}
    (h : verdict job (deeds ++ [d]) = .ok s) :
    ∃ summary, verdict job deeds = .ok summary ∧ d.enter job summary = .ok s := by
  rw [verdict_append_singleton] at h
  cases hVerdict : verdict job deeds with
  | error failure =>
    rw [hVerdict] at h
    cases h
  | ok summary =>
    rw [hVerdict] at h
    exact ⟨summary, rfl, h⟩

theorem isOk_of_enter {turn : Turn} {summary s : Summary} (h : turn.enter summary = .ok s) :
    (turn.result.isOk = true ∧ s = summary.addType) ∨
      (turn.result.isOk = false ∧ s = summary.addAborted turn.type.name) := by
  rw [Turn.enter] at h
  split at h
  · rename_i hResult
    cases h
    exact .inl ⟨by rw [hResult]; rfl, rfl⟩
  · rename_i hResult
    cases h
    exact .inr ⟨by rw [hResult]; rfl, rfl⟩
  · cases h

/-- The numbers and lists of a summary, read off the deeds. -/
structure Tally (job : Job) (deeds : List (Deed σ)) (s : Summary) : Prop where
  types : s.types = (turnsOf deeds).countP (·.result.isOk)
  aborted : s.aborted =
    ((turnsOf deeds).filter (!·.result.isOk)).map (·.type.name)
  written : s.written = deeds.filterMap (Deed.written? job)
  kept : s.kept = deeds.filterMap (Deed.kept? job)
  placed : s.written.length + s.kept.length = (placedOf deeds).length

namespace Tally

variable {job : Job} {deeds : List (Deed σ)} {summary s : Summary}

theorem of_turned (h : Tally job deeds summary) {d : Deed σ} {turn : Turn}
    (hAct : d.act = .turned turn) (hEnter : turn.enter summary = .ok s) :
    Tally job (deeds ++ [d]) s := by
  have hTurn : d.turn? = some turn := by rw [Deed.turn?, hAct]
  have hOther : d.placed? = none ∧ d.written? job = none ∧ d.kept? job = none := by
    rw [Deed.placed?, Deed.written?, Deed.kept?, hAct]
    exact ⟨rfl, rfl, rfl⟩
  rcases isOk_of_enter hEnter with ⟨hOk, rfl⟩ | ⟨hFailed, rfl⟩
  · constructor <;> simp [hTurn, hOther, hOk, Summary.addType, h.types, h.aborted, h.written,
      h.kept, ← h.placed]
  · constructor <;> simp [hTurn, hOther, hFailed, Summary.addAborted, h.types, h.aborted, h.written,
      h.kept, ← h.placed]

theorem of_placed (h : Tally job deeds summary) {d : Deed σ} {c : ClassDecl} {fate : Fate}
    (hAct : d.act = .placed c fate) (hEnter : fate.enter (job.pathOf c) summary = .ok s) :
    Tally job (deeds ++ [d]) s := by
  have hClass : d.placed? = some c := by rw [Deed.placed?, hAct]
  have hTurn : d.turn? = none := by rw [Deed.turn?, hAct]
  have hPlaced := h.placed
  cases fate with
  | wrote p =>
    have hPath : d.written? job = some (job.pathOf c) ∧ d.kept? job = none := by
      rw [Deed.written?, Deed.kept?, hAct]
      exact ⟨rfl, rfl⟩
    cases hEnter
    constructor <;> simp [hClass, hTurn, hPath, Summary.addWritten, h.types, h.aborted, h.written,
      h.kept, ← hPlaced]
    omega
  | kept =>
    have hPath : d.written? job = none ∧ d.kept? job = some (job.pathOf c) := by
      rw [Deed.written?, Deed.kept?, hAct]
      exact ⟨rfl, rfl⟩
    cases hEnter
    constructor <;> simp [hClass, hTurn, hPath, Summary.addKept, h.types, h.aborted, h.written,
      h.kept, ← hPlaced]
    omega
  | failed failure => cases hEnter

theorem length_eq (h : Tally job deeds s) :
    s.types + s.aborted.length = (turnsOf deeds).length := by
  rw [h.types, h.aborted, List.length_map, List.countP_eq_length_filter]
  exact (List.length_eq_length_filter_add _).symm

end Tally

theorem tally_of_verdict {job : Job} {deeds : List (Deed σ)} {s : Summary}
    (h : verdict job deeds = .ok s) : Tally job deeds s := by
  induction deeds using List.reverseRecOn generalizing s with
  | nil =>
    cases h
    exact ⟨rfl, rfl, rfl, rfl, rfl⟩
  | append_singleton deeds d ih =>
    obtain ⟨summary, hVerdict, hEnter⟩ := exists_enter_of_verdict h
    rw [Deed.enter] at hEnter
    split at hEnter
    · rename_i hAct
      exact (ih hVerdict).of_turned hAct hEnter
    · rename_i hAct
      exact (ih hVerdict).of_placed hAct hEnter

/-! ## What a stage has done -/

theorem Ledger.turns_eq {u : Setup σ} {w w' : World σ} {deeds : List (Deed σ)}
    (h : Ledger u w deeds w') : (u.history deeds).turns = turnsOf deeds := by
  induction h with
  | nil => rfl
  | snoc _ hDoes ih =>
    rw [turnsOf_append_singleton, ← ih]
    cases hDoes with
    | turn t w =>
      rw [u.history_turnDeed]
      rfl
    | place =>
      rw [u.history_of_placed _ rfl]
      exact (List.append_nil _).symm

/-- What a stage has done is what the types of the model ask for: each is passed on in order, and
its classes are placed before the next one. Every deed but the last one let the run go on. -/
structure Sound (u : Setup σ) (types : List BoundType) (w : World σ) (s : Stage σ) : Prop where
  ledger : Ledger u w s.deeds s.world
  types : (turnsOf s.deeds).map (·.type) ++ s.ahead = types
  placed : placedOf s.deeds ++ s.waiting = (turnsOf s.deeds).flatMap Turn.classes
  running : ∀ earlier d, s.deeds = earlier ++ [d] → ∃ summary, verdict u.job earlier = .ok summary

namespace Sound

variable {u : Setup σ} {types : List BoundType} {w : World σ} {s s' : Stage σ}

theorem start (u : Setup σ) (types : List BoundType) (w : World σ) :
    Sound u types w (.start types w) := by
  refine ⟨.nil, rfl, rfl, ?_⟩
  intro earlier d hDeeds
  simp [Stage.start] at hDeeds

theorem running_append {deeds earlier : List (Deed σ)} {d d' : Deed σ} {summary : Summary}
    (hVerdict : verdict u.job deeds = .ok summary) (h : deeds ++ [d] = earlier ++ [d']) :
    ∃ summary, verdict u.job earlier = .ok summary := by
  obtain ⟨rfl, -⟩ := List.append_inj' h rfl
  exact ⟨summary, hVerdict⟩

theorem advance (h : Sound u types w s) (hAdvance : Advance u s s') : Sound u types w s' := by
  obtain ⟨hLedger, hTypes, hPlaced, -⟩ := h
  cases hAdvance with
  | @place ahead waiting deeds w₁ w₂ summary c fate trace hVerdict hPlacing =>
    refine ⟨hLedger.snoc (.place hPlacing), ?_, ?_, ?_⟩
    · simpa [Deed.turn?] using hTypes
    · simpa [Deed.turn?, Deed.placed?] using hPlaced
    · intro earlier d hDeeds
      exact running_append hVerdict hDeeds
  | @turn t ahead deeds w₁ summary d hVerdict hDeed =>
    subst hDeed
    refine ⟨hLedger.snoc (.turn t w₁), ?_, ?_, ?_⟩
    · simpa [Deed.turn?, Setup.turnDeed] using hTypes
    · simpa [Deed.turn?, Deed.placed?, Setup.turnDeed] using hPlaced
    · intro earlier d hDeeds
      exact running_append hVerdict hDeeds

theorem of_reaches (h : Reaches u (.start types w) s) : Sound u types w s := by
  induction h with
  | refl => exact start u types w
  | tail _ hAdvance ih => exact ih.advance hAdvance

/-- A run that ends well has passed on every type and placed every class. -/
theorem of_finished (h : Sound u types w s) (hHalted : s.Halted u.job) {summary : Summary}
    (hVerdict : verdict u.job s.deeds = .ok summary) :
    (turnsOf s.deeds).map (·.type) = types ∧
      placedOf s.deeds = (turnsOf s.deeds).flatMap Turn.classes := by
  rcases hHalted with ⟨failure, hFailed⟩ | ⟨hWaiting, hAhead⟩
  · cases hVerdict.symm.trans hFailed
  · have hTypes := h.types
    have hPlaced := h.placed
    rw [hAhead, List.append_nil] at hTypes
    rw [hWaiting, List.append_nil] at hPlaced
    exact ⟨hTypes, hPlaced⟩

theorem exists_last (h : Sound u types w s) {failure : Failure}
    (hVerdict : verdict u.job s.deeds = .error failure) :
    ∃ earlier d summary, s.deeds = earlier ++ [d] ∧ verdict u.job earlier = .ok summary ∧
      d.enter u.job summary = .error failure := by
  rcases List.eq_nil_or_concat s.deeds with hNone | ⟨earlier, d, hDeeds⟩
  · rw [hNone] at hVerdict
    cases hVerdict
  · rw [List.concat_eq_append] at hDeeds
    obtain ⟨summary, hEarlier⟩ := h.running earlier d hDeeds
    refine ⟨earlier, d, summary, hDeeds, hEarlier, ?_⟩
    rw [hDeeds, verdict_append_singleton, hEarlier] at hVerdict
    exact hVerdict

end Sound

end BeanGen.Run
