import BeanGen.Conflict.Strategy
import BeanGen.Proofs.Text.Ascending

/-!
# What a name clash does to the state of a run

Marking classes adds their names and nothing else. The built-in strategies give back the state they
were given or that state stopped, whatever a dialog answers, and so does letting a clash pass. Hence
a run that goes on after a clash goes on as it was.
-/

namespace BeanGen.Conflict

namespace Inquiry

variable {σ α β : Type} (dialog : Option (Dialog σ)) (source : σ)

@[simp] theorem answer_pure (a : α) : (pure a : Inquiry α).answer dialog source = ⟨a, source, []⟩ :=
  rfl

@[simp] theorem answer_report_bind (e : Event) (f : Unit → Inquiry β) :
    (report e >>= f).answer dialog source = ((f ()).answer dialog source).after [.noted e] :=
  rfl

theorem answer_andThen (m : Inquiry α) (f : α → Inquiry β) :
    (m >>= f).answer dialog source =
      ((f (m.answer dialog source).value).answer dialog (m.answer dialog source).rest).after
        (m.answer dialog source).trace :=
  answer_bind dialog m f source

/-- What follows a question depends on its answer alone. -/
theorem answer_confirm_bind (reply : Dialog σ) (q : Question) (f : Option Char → Inquiry β) :
    (confirm q >>= f).answer (some reply) source =
      ((f (some (reply q source).answer)).answer (some reply) (reply q source).rest).after
        ((reply q source).trace ++ [.answered q (reply q source).answer]) :=
  rfl

end Inquiry

namespace RunState

theorem status_markAll (s : RunState) (names : List String) : (s.markAll names).status = s.status := by
  induction names generalizing s with
  | nil => rfl
  | cons name names ih => exact ih (s.mark name)

theorem mem_processed_markAll {s : RunState} {names : List String} {n : String} :
    n ∈ (s.markAll names).processed ↔ n ∈ s.processed ∨ n ∈ names := by
  induction names generalizing s with
  | nil => simp [markAll]
  | cons name names ih =>
    have hMark : n ∈ (s.mark name).processed ↔ n = name ∨ n ∈ s.processed :=
      Text.mem_insertAscending
    refine ih.trans ?_
    rw [hMark, List.mem_cons]
    tauto

theorem processed_markAll_pairwise {s : RunState} (h : s.processed.Pairwise (· < ·))
    (names : List String) : (s.markAll names).processed.Pairwise (· < ·) := by
  induction names generalizing s with
  | nil => exact h
  | cons name names ih =>
    have hMark : (s.mark name).processed.Pairwise (· < ·) := Text.insertAscending_pairwise h
    exact ih hMark

theorem mark_comm (s : RunState) (n m : String) : (s.mark n).mark m = (s.mark m).mark n := by
  rw [mark, mark, mark, mark, Text.insertAscending_comm]

theorem markAll_comm (s : RunState) (ns ms : List String) :
    (s.markAll ns).markAll ms = (s.markAll ms).markAll ns := by
  rw [markAll, markAll, markAll, markAll, ← List.foldl_append, ← List.foldl_append]
  exact List.perm_append_comm.foldl_eq' (fun n _ m _ s => mark_comm s n m) s

theorem isStopped_stop (s : RunState) : s.stop.isStopped = true :=
  rfl

end RunState

namespace Strategy

/-- A name clash leaves the state as it is, or stops the run. -/
def KeepsOrStops (strategy : Strategy) : Prop :=
  ∀ (state : RunState) (t : BoundType) (taken : Java.ClassDecl) {σ : Type}
    (dialog : Option (Dialog σ)) (source : σ),
    ((strategy.onNameClash state t taken).answer dialog source).value = state ∨
      ((strategy.onNameClash state t taken).answer dialog source).value = state.stop

theorem keepsOrStops_of_ignoreClash {strategy : Strategy} (h : strategy.onNameClash = ignoreClash) :
    strategy.KeepsOrStops := by
  intro state t taken σ dialog source
  rw [h]
  exact .inl rfl

theorem informViaLog_keepsOrStops : informViaLog.KeepsOrStops := by
  intro state t taken σ dialog source
  exact .inl rfl

theorem warnViaConsoleDialog_keepsOrStops : warnViaConsoleDialog.KeepsOrStops := by
  intro state t taken σ dialog source
  cases dialog with
  | none => exact .inl rfl
  | some reply =>
    rw [warnViaConsoleDialog, Inquiry.answer_confirm_bind]
    split
    · rename_i hAnswer
      cases hAnswer
    · exact .inr rfl
    · exact .inl rfl

section Dialog

variable {σ : Type} (reply : Dialog σ) (source : σ)

/-- With someone to ask, a file is replaced just if the answer is `y`. -/
theorem answer_onFileOverwrite (path : String) :
    (warnViaConsoleDialog.onFileOverwrite path).answer (some reply) source =
      ⟨(reply (overwriteQuestion path) source).answer == 'y',
        (reply (overwriteQuestion path) source).rest,
        (reply (overwriteQuestion path) source).trace ++
          [.answered (overwriteQuestion path) (reply (overwriteQuestion path) source).answer]⟩ := by
  rw [warnViaConsoleDialog, Inquiry.answer_confirm_bind]
  simp [Outcome.after]

/-- With someone to ask, a run goes on past a clash of names unless the answer is `n`. -/
theorem answer_onNameClash_of_ne {state : RunState} {t : BoundType} {taken : Java.ClassDecl}
    (h : (reply (clashQuestion t.name taken.name) source).answer ≠ 'n') :
    (warnViaConsoleDialog.onNameClash state t taken).answer (some reply) source =
      ⟨state, (reply (clashQuestion t.name taken.name) source).rest,
        (reply (clashQuestion t.name taken.name) source).trace ++
          [.answered (clashQuestion t.name taken.name)
            (reply (clashQuestion t.name taken.name) source).answer]⟩ := by
  rw [warnViaConsoleDialog, Inquiry.answer_confirm_bind]
  split
  · rename_i hAnswer
    cases hAnswer
  · rename_i hAnswer
    exact absurd (Option.some.inj hAnswer) h
  · simp [Outcome.after]

theorem isStopped_onNameClash_of_eq {state : RunState} {t : BoundType} {taken : Java.ClassDecl}
    (h : (reply (clashQuestion t.name taken.name) source).answer = 'n') :
    ((warnViaConsoleDialog.onNameClash state t taken).answer (some reply) source).value.isStopped =
      true := by
  rw [warnViaConsoleDialog, Inquiry.answer_confirm_bind, h]
  rfl

end Dialog

theorem KeepsOrStops.value_eq {σ : Type} {strategy : Strategy} (h : strategy.KeepsOrStops)
    {state : RunState} {t : BoundType} {taken : Java.ClassDecl} {dialog : Option (Dialog σ)}
    {source : σ}
    (hOn : ((strategy.onNameClash state t taken).answer dialog source).value.isStopped = false) :
    ((strategy.onNameClash state t taken).answer dialog source).value = state := by
  rcases h state t taken dialog source with hKept | hStopped
  · exact hKept
  · rw [hStopped, RunState.isStopped_stop] at hOn
    cases hOn

end Strategy

end BeanGen.Conflict
