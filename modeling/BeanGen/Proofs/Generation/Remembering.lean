import BeanGen.Proofs.Generation.History

/-!
# What a generator remembers

With a strategy that keeps the state or stops, a type that fails leaves the generator as it was: what
was built for it and what was answered for it are both forgotten. So the generator remembers just
what its successful turns returned.
-/

namespace BeanGen.Generation

open Conflict Java

variable {σ : Type}

theorem Settled.value_eq {g : Generator} {t : BoundType} {dialog : Option (Dialog σ)} {source : σ}
    {o : Outcome σ RunState} (h : Settled g t dialog source o)
    (hStrategy : g.strategy.KeepsOrStops) : o.value = g.state := by
  cases h with
  | free => rfl
  | allowed _ hAnswer hGoesOn =>
    rw [hAnswer] at hGoesOn
    rw [hAnswer]
    exact hStrategy.value_eq hGoesOn

section Step

variable {g : Generator} {t : BoundType} {dialog : Option (Dialog σ)} {source : σ}
  {o : Outcome σ (Generator × Except BindError (List ClassDecl))}

theorem Step.generator_of_error (h : Step g t dialog source o)
    (hStrategy : g.strategy.KeepsOrStops) {e : BindError} (hError : o.value.2 = .error e) :
    o.value.1 = g := by
  cases h with
  | refused => rfl
  | stopped => rfl
  | unmapped _ hSettled =>
    -- the state was replaced before the descriptor failed, but by itself
    dsimp only
    rw [hSettled.value_eq hStrategy]
  | produced => cases hError

theorem Step.state_of_ok (h : Step g t dialog source o) (hStrategy : g.strategy.KeepsOrStops)
    {classes : List ClassDecl} (hOk : o.value.2 = .ok classes) :
    o.value.1.state = g.state.markAll (classes.map (·.name)) := by
  cases h with
  | produced _ hSettled =>
    cases hOk
    rw [Generator.record, hSettled.value_eq hStrategy]
  | _ => cases hOk

theorem Step.error_cases (h : Step g t dialog source o) {e : BindError}
    (hError : o.value.2 = .error e) :
    (∃ reason, e = .invalidModel reason) ∨ ∃ reason, e = .generationAborted t.name reason := by
  cases h with
  | refused =>
    cases hError
    exact .inl ⟨_, rfl⟩
  | stopped =>
    cases hError
    exact .inr ⟨_, rfl⟩
  | unmapped =>
    cases hError
    exact .inl ⟨_, rfl⟩
  | produced => cases hError

end Step

/-- The generator runs, and remembers just what its successful turns returned. -/
structure Remembers (s : Settings) (h : History) : Prop where
  running : h.generator.state.status = .normal
  ascending : h.generator.state.processed.Pairwise (· < ·)
  processed (n : String) : n ∈ h.generator.state.processed ↔
    ∃ turn ∈ h.turns, ∃ classes, turn.result = .ok classes ∧ n ∈ classes.map (·.name)
  emitted (n : String) : (h.generator.emitted? n).isSome = true ↔ ∃ turn ∈ h.turns, turn.Produced s n
  latest (n : String) (c : ClassDecl) :
    h.generator.emitted? n = some c ↔ LatestOf s h.turns n c

theorem remembers_extend {s : Settings} {strategy : Strategy} (hStrategy : strategy.KeepsOrStops)
    {calls : List (Call σ)} (h : Remembers s (History.after s strategy calls)) (call : Call σ) :
    Remembers s (History.after s strategy (calls ++ [call])) := by
  have hEmitted := History.isSome_emitted?_after s strategy (calls ++ [call])
  have hLatest := History.emitted?_after s strategy (calls ++ [call])
  rw [← History.strategy_after s strategy calls] at hStrategy
  have hStep := call.step (History.after s strategy calls).generator
  rw [History.after_append_singleton] at hEmitted hLatest ⊢
  cases hResult : (call.outcome (History.after s strategy calls).generator).value.2 with
  | error e =>
    have hGenerator := hStep.generator_of_error hStrategy hResult
    refine ⟨?_, ?_, ?_, hEmitted, hLatest⟩
    · rw [History.extend, hGenerator]
      exact h.running
    · rw [History.extend, hGenerator]
      exact h.ascending
    · intro n
      rw [History.extend, hGenerator, h.processed]
      simp [Call.turn, hResult]
  | ok classes =>
    have hState := hStep.state_of_ok hStrategy hResult
    refine ⟨?_, ?_, ?_, hEmitted, hLatest⟩
    · rw [History.extend, hState, RunState.status_markAll]
      exact h.running
    · rw [History.extend, hState]
      exact RunState.processed_markAll_pairwise h.ascending _
    · intro n
      rw [History.extend, hState, RunState.mem_processed_markAll, h.processed]
      simp [Call.turn, hResult, or_and_right, exists_or]

theorem remembers_of_keepsOrStops (s : Settings) {strategy : Strategy}
    (hStrategy : strategy.KeepsOrStops) (calls : List (Call σ)) :
    Remembers s (History.after s strategy calls) := by
  induction calls using List.reverseRecOn with
  | nil =>
    have hEmitted := History.isSome_emitted?_after (σ := σ) s strategy []
    have hLatest := History.emitted?_after (σ := σ) s strategy []
    exact ⟨rfl, List.Pairwise.nil, by simp [History.after, History.start, Generator.ofStrategy,
      RunState.initial], hEmitted, hLatest⟩
  | append_singleton calls call ih => exact remembers_extend hStrategy ih call

/-- With a built-in strategy, or one that lets name clashes pass, a generator runs on and remembers
just what its successful turns returned. A type that fails leaves it as it was, and fails because it
is at fault or the strategy stops for it. The strategy is only consulted for a name that is taken. -/
theorem remembers_successful_turns (s : Settings) {strategy : Strategy}
    (hStrategy : strategy = .informViaLog ∨ strategy = .warnViaConsoleDialog ∨
      strategy.onNameClash = Strategy.ignoreClash)
    (calls : List (Call σ)) :
    Remembers s (History.after s strategy calls) ∧
    ∀ call : Call σ,
      (∀ e, (call.outcome (History.after s strategy calls).generator).value.2 = .error e →
        (call.outcome (History.after s strategy calls).generator).value.1 =
          (History.after s strategy calls).generator ∧
        ((∃ reason, e = .invalidModel reason) ∨
          ∃ name reason, e = .generationAborted name reason)) ∧
      (Consulted (call.outcome (History.after s strategy calls).generator).trace →
        ((History.after s strategy calls).generator.emitted? (s.qualify call.type.name)).isSome =
          true) := by
  have hKeeps : strategy.KeepsOrStops := by
    rcases hStrategy with rfl | rfl | hIgnore
    · exact Strategy.informViaLog_keepsOrStops
    · exact Strategy.warnViaConsoleDialog_keepsOrStops
    · exact Strategy.keepsOrStops_of_ignoreClash hIgnore
  refine ⟨remembers_of_keepsOrStops s hKeeps calls, ?_⟩
  intro call
  have hStep := call.step (History.after s strategy calls).generator
  constructor
  · intro e hError
    rw [← History.strategy_after s strategy calls] at hKeeps
    refine ⟨hStep.generator_of_error hKeeps hError, ?_⟩
    rcases hStep.error_cases hError with hInvalid | ⟨reason, hAborted⟩
    · exact .inl hInvalid
    · exact .inr ⟨_, reason, hAborted⟩
  · intro hConsulted
    have hTaken := (hStep.consulted_iff.mp hConsulted).2
    rwa [History.settings_after] at hTaken

/-- An order with collected items, which no column can hold, and the answers to the questions it
raises. -/
def itemsCall (identities : List String) (answers : List Char) : Call (List Char) where
  type := { BoundType.ofName "Order" with
    identities := identities, fields := [.collection "_items" .string "Item" 0] }
  dialog := some scripted
  source := answers

def itemsSettings : Settings :=
  { Settings.standard with generateJdoDescriptors := true }

/-- An order is generated, and the next one is declined. -/
def itemsHistory : History :=
  .after itemsSettings .warnViaConsoleDialog [itemsCall [] [], itemsCall [] ['n']]

def itemsOutcome : Outcome (List Char) (Generator × Except BindError (List ClassDecl)) :=
  (itemsCall ["items"] ['y']).outcome itemsHistory.generator

/-- A third order is let through, and then its identity has no column: the generator stays as it
was. -/
theorem remembers_successful_turns_items :
    Remembers itemsSettings itemsHistory ∧ Consulted itemsOutcome.trace ∧
      (itemsHistory.generator.emitted? "Order").isSome = true ∧
      itemsOutcome.value.1 = itemsHistory.generator ∧
      itemsOutcome.value.2 =
        .error (.invalidModel "identity 'items' of 'Order' has no column mapping") := by
  have hResult : itemsOutcome.value.2 =
      .error (.invalidModel "identity 'items' of 'Order' has no column mapping") := by
    decide +kernel
  have hConsulted : Consulted itemsOutcome.trace :=
    ⟨"Order", "warnViaConsoleDialog", by decide +kernel⟩
  have hName : itemsSettings.qualify "Order" = "Order" := by decide +kernel
  obtain ⟨hRemembers, hNext⟩ := remembers_successful_turns itemsSettings
    (.inr (.inl rfl)) [itemsCall [] [], itemsCall [] ['n']]
  obtain ⟨hError, hTaken⟩ := hNext (itemsCall ["items"] ['y'])
  have hEmitted := hTaken hConsulted
  rw [show (itemsCall ["items"] ['y']).type.name = "Order" from rfl, hName] at hEmitted
  exact ⟨hRemembers, hConsulted, hEmitted, (hError _ hResult).1, hResult⟩

end BeanGen.Generation
