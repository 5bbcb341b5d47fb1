import BeanGen.Proofs.Generation.History
import BeanGen.Proofs.Run.Evaluation
import Mathlib.Logic.Relation

/-!
# A run deed by deed

A run over some types does one thing after another: it passes a type to the generator, or it places
a class that came of one. A ledger lists these deeds, each with the world before and after it, so
that every deed begins where the last one ended. What a run reports is read off its ledger, and
`exists_stage` says that evaluating a run comes to just that.
-/

namespace BeanGen.Generation.Turn

open Run Conflict Java

def classes (turn : Turn) : List ClassDecl :=
  turn.result.toOption.getD []

/-- What a turn does to the summary of a run: a type for which the strategy stops is passed over,
and any other error ends the run. -/
def enter (turn : Turn) (s : Summary) : Except Failure Summary :=
  match turn.result with
  | .ok _ => .ok s.addType
  | .error (.generationAborted _ _) => .ok (s.addAborted turn.type.name)
  | .error e => .error (.typeNotGenerated turn.type.name e)

/-- What is reported once a turn is over. -/
def closing (turn : Turn) : List Happening :=
  match turn.result with
  | .error (.generationAborted name reason) =>
    [.noted (.typeAborted turn.type.name (.generationAborted name reason))]
  | _ => []

end BeanGen.Generation.Turn

namespace BeanGen.Run

open Conflict Generation Java

structure Setup (σ : Type) where
  job : Job
  settings : Settings
  strategy : Strategy
  dialog : Dialog σ

inductive Act where
  | turned (turn : Turn)
  | placed (c : ClassDecl) (fate : Fate)

/-- One thing a run does, the worlds around it, and what happened meanwhile. -/
structure Deed (σ : Type) where
  act : Act
  before : World σ
  after : World σ
  trace : List Happening

variable {σ : Type}

namespace Deed

def turn? (d : Deed σ) : Option Turn :=
  match d.act with
  | .turned turn => some turn
  | .placed _ _ => none

def placed? (d : Deed σ) : Option ClassDecl :=
  match d.act with
  | .turned _ => none
  | .placed c _ => some c

def enter (job : Job) (s : Summary) (d : Deed σ) : Except Failure Summary :=
  match d.act with
  | .turned turn => turn.enter s
  | .placed c fate => fate.enter (job.pathOf c) s

end Deed

def verdict (job : Job) (deeds : List (Deed σ)) : Except Failure Summary :=
  deeds.foldlM (Deed.enter job) .empty

def traceOf (deeds : List (Deed σ)) : List Happening :=
  deeds.flatMap (·.trace)

theorem verdict_append_singleton (job : Job) (deeds : List (Deed σ)) (d : Deed σ) :
    verdict job (deeds ++ [d]) = verdict job deeds >>= fun s => d.enter job s := by
  simp [verdict, List.foldlM_append]

theorem traceOf_append_singleton (deeds : List (Deed σ)) (d : Deed σ) :
    traceOf (deeds ++ [d]) = traceOf deeds ++ d.trace := by
  simp [traceOf]

namespace Setup

variable (u : Setup σ)

def call (t : BoundType) (w : World σ) : Call σ :=
  ⟨t, some u.dialog, w.source⟩

@[simp] theorem type_call (t : BoundType) (w : World σ) : (u.call t w).type = t :=
  rfl

def calls (deeds : List (Deed σ)) : List (Call σ) :=
  deeds.filterMap fun d => d.turn?.map fun turn => u.call turn.type d.before

def history (deeds : List (Deed σ)) : History :=
  .after u.settings u.strategy (u.calls deeds)

def generator (deeds : List (Deed σ)) : Generator :=
  (u.history deeds).generator

def turnDeed (g : Generator) (t : BoundType) (w : World σ) : Deed σ where
  act := .turned ((u.call t w).turn g)
  before := w
  after := { w with source := ((u.call t w).outcome g).rest }
  trace := ((u.call t w).outcome g).trace ++ ((u.call t w).turn g).closing

theorem strategy_generator (deeds : List (Deed σ)) : (u.generator deeds).strategy = u.strategy :=
  History.strategy_after _ _ _

theorem settings_generator (deeds : List (Deed σ)) : (u.generator deeds).settings = u.settings :=
  History.settings_after _ _ _

theorem history_turnDeed (deeds : List (Deed σ)) (g : Generator) (t : BoundType) (w : World σ) :
    u.history (deeds ++ [u.turnDeed g t w]) = (u.history deeds).extend (u.call t w) := by
  have hCalls : u.calls (deeds ++ [u.turnDeed g t w]) = u.calls deeds ++ [u.call t w] := by
    simp [calls, Deed.turn?, turnDeed, Call.turn, call]
  rw [history, hCalls, History.after_append_singleton]
  rfl

theorem history_of_placed (deeds : List (Deed σ)) {d : Deed σ} {c : ClassDecl} {fate : Fate}
    (h : d.act = .placed c fate) : u.history (deeds ++ [d]) = u.history deeds := by
  simp [history, calls, Deed.turn?, h]

end Setup

/-- A deed that a run may do after some others. -/
inductive Does (u : Setup σ) (earlier : List (Deed σ)) : Deed σ → Prop
  | turn (t : BoundType) (w : World σ) : Does u earlier (u.turnDeed (u.generator earlier) t w)
  | place {c : ClassDecl} {fate : Fate} {w w' : World σ} {trace : List Happening} :
      Placing u.job u.strategy u.dialog c w fate w' trace →
      Does u earlier ⟨.placed c fate, w, w', trace⟩

/-- Deeds that lead from one world to another. -/
inductive Ledger (u : Setup σ) (w : World σ) : List (Deed σ) → World σ → Prop
  | nil : Ledger u w [] w
  | snoc {deeds : List (Deed σ)} {d : Deed σ} : Ledger u w deeds d.before → Does u deeds d →
      Ledger u w (deeds ++ [d]) d.after

/-! ## Stages -/

/-- How far a run has come: the types ahead, the classes of the last type that wait to be placed,
and the deeds so far. -/
structure Stage (σ : Type) where
  ahead : List BoundType
  waiting : List ClassDecl
  deeds : List (Deed σ)
  world : World σ

namespace Stage

def start (types : List BoundType) (w : World σ) : Stage σ :=
  ⟨types, [], [], w⟩

/-- What a run has yet to do. -/
def rest (u : Setup σ) (s : Stage σ) : Task Summary :=
  match verdict u.job s.deeds with
  | .error failure => throw failure
  | .ok summary => do
    let summary ← s.waiting.foldlM (placeClass u.job u.strategy) summary
    generateTypes u.job (u.generator s.deeds) summary s.ahead

/-- What a run comes to from a stage on. -/
def outcome (u : Setup σ) (s : Stage σ) : Result σ (Except Failure Summary) :=
  ((s.rest u).run.eval u.dialog s.world).after (traceOf s.deeds)

def Halted (job : Job) (s : Stage σ) : Prop :=
  (∃ failure, verdict job s.deeds = .error failure) ∨ (s.waiting = [] ∧ s.ahead = [])

end Stage

/-- One more deed: a class that waits is placed, or else the next type goes to the generator. -/
inductive Advance (u : Setup σ) : Stage σ → Stage σ → Prop
  | place {ahead : List BoundType} {waiting : List ClassDecl} {deeds : List (Deed σ)}
      {w w' : World σ} {summary : Summary} {c : ClassDecl} {fate : Fate} {trace : List Happening} :
      verdict u.job deeds = .ok summary →
      Placing u.job u.strategy u.dialog c w fate w' trace →
      Advance u ⟨ahead, c :: waiting, deeds, w⟩
        ⟨ahead, waiting, deeds ++ [⟨.placed c fate, w, w', trace⟩], w'⟩
  | turn {t : BoundType} {ahead : List BoundType} {deeds : List (Deed σ)} {w : World σ}
      {summary : Summary} {d : Deed σ} : verdict u.job deeds = .ok summary →
      d = u.turnDeed (u.generator deeds) t w →
      Advance u ⟨t :: ahead, [], deeds, w⟩
        ⟨ahead, ((u.call t w).turn (u.generator deeds)).classes, deeds ++ [d], d.after⟩

abbrev Reaches (u : Setup σ) : Stage σ → Stage σ → Prop :=
  Relation.ReflTransGen (Advance u)

namespace Stage

variable {u : Setup σ} {ahead : List BoundType} {waiting : List ClassDecl}
  {deeds : List (Deed σ)} {w : World σ}

theorem rest_of_ok {summary : Summary} (h : verdict u.job deeds = .ok summary) :
    rest u ⟨ahead, waiting, deeds, w⟩ =
      waiting.foldlM (placeClass u.job u.strategy) summary >>= fun summary =>
        generateTypes u.job (u.generator deeds) summary ahead := by
  rw [rest, h]

theorem outcome_of_error {failure : Failure} (h : verdict u.job deeds = .error failure) :
    outcome u ⟨ahead, waiting, deeds, w⟩ = ⟨.error failure, w, traceOf deeds⟩ := by
  rw [outcome, rest, h]
  simp [Result.after]

theorem outcome_of_done {summary : Summary} (h : verdict u.job deeds = .ok summary) :
    outcome u ⟨[], [], deeds, w⟩ = ⟨.ok summary, w, traceOf deeds⟩ := by
  rw [outcome, rest_of_ok h, List.foldlM_nil, pure_bind, generateTypes]
  simp [Result.after]

theorem exists_advance_place (ahead : List BoundType) (c : ClassDecl) (waiting : List ClassDecl)
    (w : World σ) {summary : Summary} (hVerdict : verdict u.job deeds = .ok summary) :
    ∃ s, Advance u ⟨ahead, c :: waiting, deeds, w⟩ s ∧ s.ahead = ahead ∧ s.waiting = waiting ∧
      s.outcome u = outcome u ⟨ahead, c :: waiting, deeds, w⟩ := by
  obtain ⟨fate, w', trace, hPlacing, hEval⟩ :=
    placeClass_placing u.job u.strategy u.dialog c w summary
  refine ⟨_, .place hVerdict hPlacing, rfl, rfl, ?_⟩
  generalize hDeed : (⟨.placed c fate, w, w', trace⟩ : Deed σ) = d
  have hNext : verdict u.job (deeds ++ [d]) = fate.enter (u.job.pathOf c) summary := by
    rw [verdict_append_singleton, hVerdict, ← hDeed]
    rfl
  have hTrace : traceOf (deeds ++ [d]) = traceOf deeds ++ trace := by
    rw [traceOf_append_singleton, ← hDeed]
  cases hEnter : fate.enter (u.job.pathOf c) summary with
  | ok summary' =>
    rw [hEnter] at hEval hNext
    have hGenerator : u.generator (deeds ++ [d]) = u.generator deeds :=
      congrArg History.generator (u.history_of_placed deeds (congrArg Deed.act hDeed.symm))
    rw [outcome, outcome, rest_of_ok hNext, rest_of_ok hVerdict, List.foldlM_cons, bind_assoc,
      Task.eval_andThen_of_ok _ _ hEval, hGenerator, Result.after_after, hTrace]
  | error failure =>
    rw [hEnter] at hEval hNext
    rw [outcome_of_error hNext, outcome, rest_of_ok hVerdict, List.foldlM_cons, bind_assoc,
      Task.eval_andThen_of_error _ _ hEval, hTrace]
    rfl

theorem eval_generateTypes_cons (u : Setup σ) (g : Generator) (summary : Summary) (t : BoundType)
    (ahead : List BoundType) (w : World σ) :
    (generateTypes u.job g summary (t :: ahead)).run.eval u.dialog w =
      match ((u.call t w).turn g).enter summary with
      | .ok summary =>
        ((((u.call t w).turn g).classes.foldlM
          (placeClass u.job ((u.call t w).outcome g).value.1.strategy) summary >>= fun summary =>
            generateTypes u.job ((u.call t w).outcome g).value.1 summary ahead).run.eval u.dialog
          (u.turnDeed g t w).after).after (u.turnDeed g t w).trace
      | .error failure => ⟨.error failure, (u.turnDeed g t w).after, (u.turnDeed g t w).trace⟩ := by
  rw [generateTypes, Task.eval_ofProgram_andThen, Program.eval_ofInquiry]
  have hOutcome : (g.generate t).answer (some u.dialog) w.source = (u.call t w).outcome g := rfl
  rw [hOutcome]
  cases hResult : ((u.call t w).outcome g).value.2 with
  | ok classes =>
    simp [Turn.enter, Turn.classes, Turn.closing, Call.turn, Setup.turnDeed, hResult,
      Except.toOption]
  | error e =>
    cases e with
    | generationAborted name reason =>
      simp only [hResult, Task.eval_ofProgram_andThen]
      simp [Turn.enter, Turn.classes, Turn.closing, Call.turn, Setup.turnDeed, hResult,
        Except.toOption, Program.report, Program.eval, Result.after]
    | _ => simp [Turn.enter, Turn.closing, Call.turn, Setup.turnDeed, hResult, Result.after]

theorem exists_advance_turn (t : BoundType) (ahead : List BoundType) (w : World σ)
    {summary : Summary} (hVerdict : verdict u.job deeds = .ok summary) :
    ∃ s, Advance u ⟨t :: ahead, [], deeds, w⟩ s ∧ s.ahead = ahead ∧
      s.outcome u = outcome u ⟨t :: ahead, [], deeds, w⟩ := by
  refine ⟨_, .turn hVerdict rfl, rfl, ?_⟩
  generalize hDeed : u.turnDeed (u.generator deeds) t w = d
  have hGenerator :
      u.generator (deeds ++ [d]) = ((u.call t w).outcome (u.generator deeds)).value.1 :=
    hDeed ▸ congrArg History.generator (u.history_turnDeed deeds _ t w)
  have hStrategy := u.strategy_generator (deeds ++ [d])
  have hNext : verdict u.job (deeds ++ [d]) =
      ((u.call t w).turn (u.generator deeds)).enter summary := by
    rw [verdict_append_singleton, hVerdict, ← hDeed]
    rfl
  have hTrace := traceOf_append_singleton deeds d
  have hThen := eval_generateTypes_cons u (u.generator deeds) summary t ahead w
  rw [hDeed, ← hGenerator, hStrategy] at hThen
  conv_rhs => rw [outcome, rest_of_ok hVerdict, List.foldlM_nil, pure_bind, hThen]
  cases hEnter : ((u.call t w).turn (u.generator deeds)).enter summary with
  | ok summary' =>
    rw [hEnter] at hNext
    rw [outcome, rest_of_ok hNext, Result.after_after, hTrace]
  | error failure =>
    rw [hEnter] at hNext
    rw [outcome_of_error hNext, hTrace]
    rfl

/-- A run that has not halted advances, and what it comes to stays the same. -/
theorem exists_advance {s : Stage σ} {summary : Summary}
    (hVerdict : verdict u.job s.deeds = .ok summary) (hMore : ¬ (s.waiting = [] ∧ s.ahead = [])) :
    ∃ s', Advance u s s' ∧ s'.outcome u = s.outcome u ∧
      Prod.Lex (· < ·) (· < ·) (s'.ahead.length, s'.waiting.length)
        (s.ahead.length, s.waiting.length) := by
  obtain ⟨ahead, waiting, deeds, w⟩ := s
  cases waiting with
  | cons c waiting =>
    obtain ⟨s', hAdvance, hAhead, hWaiting, hOutcome⟩ :=
      exists_advance_place ahead c waiting w hVerdict
    refine ⟨s', hAdvance, hOutcome, ?_⟩
    rw [hAhead, hWaiting]
    exact .right _ (by simp)
  | nil =>
    cases ahead with
    | nil => exact absurd ⟨rfl, rfl⟩ hMore
    | cons t ahead =>
      obtain ⟨s', hAdvance, hAhead, hOutcome⟩ := exists_advance_turn t ahead w hVerdict
      refine ⟨s', hAdvance, hOutcome, ?_⟩
      rw [hAhead]
      exact .left _ _ (by simp)

/-- Every run halts, with what it comes to from any of its stages on. -/
theorem exists_halted (u : Setup σ) (s : Stage σ) :
    ∃ last, Reaches u s last ∧ last.Halted u.job ∧ last.outcome u = s.outcome u := by
  cases hVerdict : verdict u.job s.deeds with
  | error failure => exact ⟨s, .refl, .inl ⟨failure, hVerdict⟩, rfl⟩
  | ok summary =>
    by_cases hDone : s.waiting = [] ∧ s.ahead = []
    · exact ⟨s, .refl, .inr hDone, rfl⟩
    · obtain ⟨s', hAdvance, hOutcome, hLess⟩ := exists_advance hVerdict hDone
      obtain ⟨last, hReaches, hHalted, hLast⟩ := exists_halted u s'
      exact ⟨last, .head hAdvance hReaches, hHalted, hLast.trans hOutcome⟩
termination_by (s.ahead.length, s.waiting.length)
decreasing_by exact hLess

theorem Halted.outcome_eq {s : Stage σ} (h : s.Halted u.job) :
    s.outcome u = ⟨verdict u.job s.deeds, s.world, traceOf s.deeds⟩ := by
  obtain ⟨ahead, waiting, deeds, w⟩ := s
  cases hVerdict : verdict u.job deeds with
  | error failure => exact outcome_of_error hVerdict
  | ok summary =>
    rcases h with ⟨failure, hFailed⟩ | ⟨hWaiting, hAhead⟩
    · cases hVerdict.symm.trans hFailed
    · cases hWaiting
      cases hAhead
      exact outcome_of_done hVerdict

end Stage

/-- Evaluating a run comes to what the ledger of its last stage says. -/
theorem exists_stage (u : Setup σ) (types : List BoundType) (w : World σ) :
    ∃ last, Reaches u (.start types w) last ∧ last.Halted u.job ∧
      (runWith u.job (.ofStrategy u.settings u.strategy) types).run.eval u.dialog w =
        ⟨verdict u.job last.deeds, last.world,
          .noted (.runStarted types.length u.strategy.name u.job.output) ::
            traceOf last.deeds⟩ := by
  obtain ⟨last, hReaches, hHalted, hOutcome⟩ := Stage.exists_halted u (.start types w)
  refine ⟨last, hReaches, hHalted, ?_⟩
  have hStart : (Stage.start types w).outcome u =
      (generateTypes u.job (.ofStrategy u.settings u.strategy) .empty types).run.eval
        u.dialog w := by
    rw [Stage.outcome, Stage.start, Stage.rest_of_ok rfl, List.foldlM_nil, pure_bind]
    rfl
  rw [hHalted.outcome_eq, hStart] at hOutcome
  rw [runWith, Task.eval_ofProgram_andThen]
  simp only [Program.report, Program.eval, Result.after]
  rw [← hOutcome]
  rfl

end BeanGen.Run
