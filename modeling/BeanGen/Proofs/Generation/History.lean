import BeanGen.Proofs.Generation.Step
import Mathlib.Data.List.Induction

/-!
# Histories of a generator

A history is a generator with the types it was passed and what came of each. Every call has a dialog
and a source of answers of its own, so nothing is assumed of how questions are answered.
-/

namespace BeanGen.Generation

open Conflict Java

variable {σ : Type}

theorem exists_ok_of_isSome {ε α : Type} {x : Except ε α} (h : x.toOption.isSome = true) :
    ∃ a, x = .ok a := by
  cases x with
  | error e => cases h
  | ok a => exact ⟨a, rfl⟩

/-- A type to be passed to a generator, with the dialog at that time and its source of answers. -/
structure Call (σ : Type) where
  type : BoundType
  dialog : Option (Dialog σ)
  source : σ

structure Turn where
  type : BoundType
  result : Except BindError (List ClassDecl)
  trace : List Happening

namespace Call

variable (call : Call σ) (g : Generator)

def outcome : Outcome σ (Generator × Except BindError (List ClassDecl)) :=
  (g.generate call.type).answer call.dialog call.source

def turn : Turn :=
  ⟨call.type, (call.outcome g).value.2, (call.outcome g).trace⟩

@[simp] theorem type_turn : (call.turn g).type = call.type :=
  rfl

theorem step :
    Step g (qualifiedType g.settings call.type) call.dialog call.source (call.outcome g) :=
  generate_step g call.type call.dialog call.source

end Call

/-- A generator with the turns that led to it. -/
structure History where
  generator : Generator
  turns : List Turn

namespace History

def start (s : Settings) (strategy : Strategy) : History :=
  ⟨.ofStrategy s strategy, []⟩

def extend (h : History) (call : Call σ) : History :=
  ⟨(call.outcome h.generator).value.1, h.turns ++ [call.turn h.generator]⟩

def after (s : Settings) (strategy : Strategy) (calls : List (Call σ)) : History :=
  calls.foldl extend (start s strategy)

theorem after_append_singleton (s : Settings) (strategy : Strategy) (calls : List (Call σ))
    (call : Call σ) : after s strategy (calls ++ [call]) = (after s strategy calls).extend call := by
  rw [after, List.foldl_append]
  rfl

end History

/-! ## One step -/

@[simp] theorem name_qualifiedType (s : Settings) (t : BoundType) :
    (qualifiedType s t).name = s.qualify t.name :=
  rfl

section Step

variable {g : Generator} {t : BoundType} {dialog : Option (Dialog σ)} {source : σ}
  {o : Outcome σ (Generator × Except BindError (List ClassDecl))}

theorem Step.settings_eq (h : Step g t dialog source o) : o.value.1.settings = g.settings := by
  cases h <;> rfl

theorem Step.strategy_eq (h : Step g t dialog source o) : o.value.1.strategy = g.strategy := by
  cases h <;> rfl

theorem Step.emitted?_of_error (h : Step g t dialog source o) {e : BindError}
    (hError : o.value.2 = .error e) (n : String) : o.value.1.emitted? n = g.emitted? n := by
  cases h with
  | produced => cases hError
  | _ => rfl

/-- A step that succeeds gives the bound class and its descriptors, and the generator knows the
class from then on. -/
theorem Step.of_ok (h : Step g t dialog source o) {classes : List ClassDecl}
    (hOk : o.value.2 = .ok classes) :
    t.check = .ok () ∧
    (∃ relational, relationalClasses g.settings t = .ok relational ∧
      classes = boundClass g.settings t :: (xmlClasses g.settings t ++ relational)) ∧
    ∀ n, o.value.1.emitted? n = if n = t.name then classes.head? else g.emitted? n := by
  cases h with
  | produced hCheck _ hRelational hClasses =>
    cases hOk
    refine ⟨hCheck, ⟨_, hRelational, hClasses⟩, ?_⟩
    intro n
    rw [hClasses, List.head?_cons]
    exact Text.lookup_insertEntry t.name (boundClass g.settings t) g.emitted n
  | _ => cases hOk

theorem Step.exists_cons_of_ok (h : Step g t dialog source o) {classes : List ClassDecl}
    (hOk : o.value.2 = .ok classes) : ∃ bound descriptors, classes = bound :: descriptors := by
  obtain ⟨_, ⟨relational, _, hClasses⟩, _⟩ := h.of_ok hOk
  exact ⟨_, _, hClasses⟩

def Consulted (trace : List Happening) : Prop :=
  ∃ name strategy, .noted (.strategyConsulted name strategy) ∈ trace

theorem Settled.consulted_iff {o : Outcome σ RunState} (h : Settled g t dialog source o) :
    Consulted o.trace ↔ (g.emitted? t.name).isSome = true := by
  cases h with
  | free hFree => simp [Consulted, hFree]
  | allowed hTaken =>
    rw [hTaken]
    exact iff_of_true ⟨_, _, List.mem_cons_self⟩ rfl

theorem Step.consulted_iff (h : Step g t dialog source o) :
    Consulted o.trace ↔ t.check = .ok () ∧ (g.emitted? t.name).isSome = true := by
  cases h with
  | refused hCheck => simp [Consulted, hCheck]
  | stopped hCheck hTaken =>
    rw [hTaken]
    exact iff_of_true ⟨_, _, List.mem_cons_self⟩ ⟨hCheck, rfl⟩
  | unmapped hCheck hSettled => rw [← hSettled.consulted_iff, hCheck, and_iff_right rfl]
  | produced hCheck hSettled =>
    rw [← hSettled.consulted_iff, hCheck, and_iff_right rfl]
    simp [Consulted]

end Step

/-! ## What a generator knows of its turns -/

namespace History

variable (s : Settings) (strategy : Strategy)

theorem settings_after (calls : List (Call σ)) :
    (after s strategy calls).generator.settings = s := by
  induction calls using List.reverseRecOn with
  | nil => rfl
  | append_singleton calls call ih =>
    rw [after_append_singleton]
    exact (call.step _).settings_eq.trans ih

theorem strategy_after (calls : List (Call σ)) :
    (after s strategy calls).generator.strategy = strategy := by
  induction calls using List.reverseRecOn with
  | nil => rfl
  | append_singleton calls call ih =>
    rw [after_append_singleton]
    exact (call.step _).strategy_eq.trans ih

end History

/-- A turn that succeeded with a type of the qualified name. -/
def Turn.Produced (s : Settings) (turn : Turn) (n : String) : Prop :=
  s.qualify turn.type.name = n ∧ ∃ classes, turn.result = .ok classes

/-- The class came first in the latest turn that succeeded with a type of the qualified name. -/
def LatestOf (s : Settings) (turns : List Turn) (n : String) (c : ClassDecl) : Prop :=
  ∃ before turn later descriptors, turns = before ++ turn :: later ∧
    s.qualify turn.type.name = n ∧ turn.result = .ok (c :: descriptors) ∧
    ∀ other ∈ later, ¬ other.Produced s n

theorem latestOf_append_singleton {s : Settings} {turns : List Turn} {turn : Turn} {n : String}
    {c : ClassDecl} :
    LatestOf s (turns ++ [turn]) n c ↔
      (s.qualify turn.type.name = n ∧ ∃ descriptors, turn.result = .ok (c :: descriptors)) ∨
        (LatestOf s turns n c ∧ ¬ turn.Produced s n) := by
  constructor
  · rintro ⟨before, found, later, descriptors, hTurns, hName, hResult, hLater⟩
    -- the turn that was found is the new one, or the new one came later and did not succeed
    rcases List.eq_nil_or_concat later with rfl | ⟨rest, last, rfl⟩
    · obtain ⟨-, hLast⟩ := List.append_inj' hTurns rfl
      cases hLast
      exact .inl ⟨hName, descriptors, hResult⟩
    · rw [List.concat_eq_append] at hTurns hLater
      rw [← List.cons_append, ← List.append_assoc] at hTurns
      obtain ⟨rfl, hLast⟩ := List.append_inj' hTurns rfl
      cases hLast
      refine .inr ⟨⟨before, found, rest, descriptors, rfl, hName, hResult, ?_⟩, ?_⟩
      · intro other hOther
        exact hLater other (List.mem_append_left [turn] hOther)
      · exact hLater turn (List.mem_append_right rest List.mem_cons_self)
  · rintro (⟨hName, descriptors, hResult⟩ | ⟨hLatest, hFailed⟩)
    · exact ⟨turns, turn, [], descriptors, rfl, hName, hResult, by simp⟩
    · obtain ⟨before, found, later, descriptors, rfl, hName, hResult, hLater⟩ := hLatest
      refine ⟨before, found, later ++ [turn], descriptors, by simp, hName, hResult, ?_⟩
      intro other hOther
      rcases List.mem_append.mp hOther with hOther | hOther
      · exact hLater other hOther
      · rw [List.mem_singleton.mp hOther]
        exact hFailed

namespace History

variable (s : Settings) (strategy : Strategy)

/-- One more call either fails and changes no class, or puts its first class under its name. -/
theorem extend_cases (h : History) (call : Call σ) :
    (∃ e, (call.turn h.generator).result = .error e ∧
      ∀ n, (h.extend call).generator.emitted? n = h.generator.emitted? n) ∨
    ∃ bound descriptors, (call.turn h.generator).result = .ok (bound :: descriptors) ∧
      ∀ n, (h.extend call).generator.emitted? n =
        if n = h.generator.settings.qualify call.type.name then some bound
        else h.generator.emitted? n := by
  have hStep := call.step h.generator
  cases hResult : (call.outcome h.generator).value.2 with
  | error e => exact .inl ⟨e, hResult, hStep.emitted?_of_error hResult⟩
  | ok classes =>
    obtain ⟨-, -, hEmitted⟩ := hStep.of_ok hResult
    obtain ⟨bound, descriptors, rfl⟩ := hStep.exists_cons_of_ok hResult
    exact .inr ⟨bound, descriptors, hResult, hEmitted⟩

theorem emitted?_after (calls : List (Call σ)) (n : String) (c : ClassDecl) :
    (after s strategy calls).generator.emitted? n = some c ↔
      LatestOf s (after s strategy calls).turns n c := by
  induction calls using List.reverseRecOn with
  | nil => simp [after, start, Generator.ofStrategy, Generator.emitted?, LatestOf]
  | append_singleton calls call ih =>
    rw [after_append_singleton]
    refine Iff.trans ?_ latestOf_append_singleton.symm
    rcases extend_cases (after s strategy calls) call with
      ⟨e, hResult, hEmitted⟩ | ⟨bound, descriptors, hResult, hEmitted⟩
    · rw [hEmitted, ih]
      simp [Turn.Produced, hResult]
    · rw [hEmitted, settings_after]
      by_cases hName : s.qualify call.type.name = n
      · simp [Turn.Produced, hResult, hName]
      · simp [Turn.Produced, hName, Ne.symm hName, ih]

theorem isSome_emitted?_after (calls : List (Call σ)) (n : String) :
    ((after s strategy calls).generator.emitted? n).isSome = true ↔
      ∃ turn ∈ (after s strategy calls).turns, turn.Produced s n := by
  induction calls using List.reverseRecOn with
  | nil => simp [after, start, Generator.ofStrategy, Generator.emitted?]
  | append_singleton calls call ih =>
    have hTurns : (∃ turn ∈ ((after s strategy calls).extend call).turns, turn.Produced s n) ↔
        (∃ turn ∈ (after s strategy calls).turns, turn.Produced s n) ∨
          (call.turn (after s strategy calls).generator).Produced s n := by
      simp [extend, or_and_right, exists_or]
    rw [after_append_singleton, hTurns, ← ih]
    rcases extend_cases (after s strategy calls) call with
      ⟨e, hResult, hEmitted⟩ | ⟨bound, descriptors, hResult, hEmitted⟩
    · rw [hEmitted]
      simp [Turn.Produced, hResult]
    · rw [hEmitted, settings_after]
      by_cases hName : s.qualify call.type.name = n
      · simp [Turn.Produced, hResult, hName]
      · simp [Turn.Produced, hName, Ne.symm hName]

end History

end BeanGen.Generation
