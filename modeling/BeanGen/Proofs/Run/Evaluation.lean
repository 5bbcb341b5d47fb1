import BeanGen.Proofs.Conflict.Strategy
import BeanGen.Proofs.Run.FileTree
import BeanGen.Run.Generate

/-!
# What a class comes to

Evaluating a task goes step by step: one that fails ends there, and what happened before stays. A
class that is to be placed is kept out of a file that is there, or written, or an operation on files
fails; `placeClass_placing` says that nothing else happens, and what each case leaves behind.
-/

namespace BeanGen.Run

open Conflict Java

variable {σ α β : Type}

instance : LawfulMonad Program :=
  .mk' Program Program.bind_done (fun _ _ => rfl) Program.bind_assoc

section Evaluation

variable (dialog : Dialog σ) (w : World σ)

theorem Result.after_after (before between : List Happening) (r : Result σ α) :
    (r.after between).after before = r.after (before ++ between) := by
  simp [Result.after]

@[simp] theorem Program.eval_pure (a : α) : (pure a : Program α).eval dialog w = ⟨a, w, []⟩ :=
  rfl

theorem Program.eval_andThen (m : Program α) (f : α → Program β) :
    (m >>= f).eval dialog w =
      ((f (m.eval dialog w).value).eval dialog (m.eval dialog w).world).after
        (m.eval dialog w).trace :=
  Program.eval_bind dialog m f w

/-- An inquiry asks the dialog and leaves the file tree alone. -/
theorem Program.eval_ofInquiry (m : Inquiry α) :
    (ofInquiry m).eval dialog w =
      ⟨(m.answer (some dialog) w.source).value,
        { w with source := (m.answer (some dialog) w.source).rest },
        (m.answer (some dialog) w.source).trace⟩ := by
  induction m generalizing w with
  | done a => rfl
  | note e next ih =>
    rw [ofInquiry, eval, ih]
    rfl
  | ask q next ih =>
    rw [ofInquiry, eval, ih]
    rfl

namespace Task

theorem eval_andThen_of_ok {m : Task α} {a : α} {w' : World σ} {trace : List Happening}
    (h : m.run.eval dialog w = ⟨.ok a, w', trace⟩) (f : α → Task β) :
    (m >>= f).run.eval dialog w = ((f a).run.eval dialog w').after trace := by
  have hBind : (m >>= f).run = m.run >>= ExceptT.bindCont f := rfl
  rw [hBind, Program.eval_andThen, h]
  rfl

theorem eval_andThen_of_error {m : Task α} {failure : Failure} {w' : World σ}
    {trace : List Happening} (h : m.run.eval dialog w = ⟨.error failure, w', trace⟩)
    (f : α → Task β) : (m >>= f).run.eval dialog w = ⟨.error failure, w', trace⟩ := by
  have hBind : (m >>= f).run = m.run >>= ExceptT.bindCont f := rfl
  rw [hBind, Program.eval_andThen, h]
  simp [ExceptT.bindCont, Result.after]

theorem eval_ofProgram (p : Program α) :
    (ofProgram p).run.eval dialog w =
      ⟨.ok (p.eval dialog w).value, (p.eval dialog w).world, (p.eval dialog w).trace⟩ := by
  have hLift : (ofProgram p).run = p >>= fun a => pure (.ok a) := rfl
  rw [hLift, Program.eval_andThen]
  simp [Result.after]

theorem eval_ofProgram_andThen (p : Program α) (f : α → Task β) :
    (ofProgram p >>= f).run.eval dialog w =
      ((f (p.eval dialog w).value).run.eval dialog (p.eval dialog w).world).after
        (p.eval dialog w).trace :=
  eval_andThen_of_ok dialog w (eval_ofProgram dialog w p) f

theorem eval_ofOutcome_of_ok {p : Program (Except OsFault α)} {a : α} {w' : World σ}
    {trace : List Happening} (h : p.eval dialog w = ⟨.ok a, w', trace⟩)
    (failure : OsFault → Failure) :
    (ofOutcome failure p).run.eval dialog w = ⟨.ok a, w', trace⟩ := by
  rw [ofOutcome, eval_ofProgram_andThen, h]
  simp [Result.after]

theorem eval_ofOutcome_of_error {p : Program (Except OsFault α)} {fault : OsFault} {w' : World σ}
    {trace : List Happening} (h : p.eval dialog w = ⟨.error fault, w', trace⟩)
    (failure : OsFault → Failure) :
    (ofOutcome failure p).run.eval dialog w = ⟨.error (failure fault), w', trace⟩ := by
  rw [ofOutcome, eval_ofProgram_andThen, h]
  simp [Result.after]

end Task

end Evaluation

/-! ## Leave to write -/

/-- Whether a file may be written: nothing is there, or it is forced, or the strategy decides. -/
inductive Leave (job : Job) (strategy : Strategy) (dialog : Dialog σ) (path : String)
    (w : World σ) : Result σ Bool → Prop
  | unasked : (w.tree.contains path = false ∨ job.force = true) →
      Leave job strategy dialog path w ⟨true, w, []⟩
  | asked {o : Outcome σ Bool} : w.tree.contains path = true → job.force = false →
      o = (strategy.onFileOverwrite path).answer (some dialog) w.source →
      Leave job strategy dialog path w ⟨o.value, { w with source := o.rest }, o.trace⟩

theorem mayWrite_leave (job : Job) (strategy : Strategy) (dialog : Dialog σ) (path : String)
    (w : World σ) :
    Leave job strategy dialog path w ((mayWrite job strategy path).eval dialog w) := by
  have hEval : (mayWrite job strategy path).eval dialog w =
      (if w.tree.contains path && !job.force then Program.ofInquiry (strategy.onFileOverwrite path)
        else pure true : Program Bool).eval dialog w := rfl
  rw [hEval]
  split
  · rename_i hAsked
    rw [Bool.and_eq_true, Bool.not_eq_true'] at hAsked
    rw [Program.eval_ofInquiry]
    exact .asked hAsked.1 hAsked.2 rfl
  · rename_i hFree
    rw [Bool.and_eq_true, Bool.not_eq_true', not_and_or, Bool.not_eq_true, Bool.not_eq_false]
      at hFree
    exact .unasked hFree

theorem Leave.tree_eq {job : Job} {strategy : Strategy} {dialog : Dialog σ} {path : String}
    {w : World σ} {r : Result σ Bool} (h : Leave job strategy dialog path w r) :
    r.world.tree = w.tree := by
  cases h <;> rfl

theorem Leave.of_false {job : Job} {strategy : Strategy} {dialog : Dialog σ} {path : String}
    {w : World σ} {r : Result σ Bool} (h : Leave job strategy dialog path w r)
    (hValue : r.value = false) : w.tree.contains path = true ∧ job.force = false := by
  cases h with
  | unasked => cases hValue
  | asked hThere hUnforced => exact ⟨hThere, hUnforced⟩

/-! ## Writing a class -/

/-- An operation on files has failed and left a tree behind. -/
inductive Failure.OfFiles (tree : FileTree) : Failure → Prop
  | directory {before : FileTree} {holder : String} {fault : OsFault} :
      before.makeDirs holder = (tree, .error fault) → OfFiles tree (.directoryNotMade holder fault)
  | file {path text : String} {fault : OsFault} :
      tree.writeText path text = .error fault → OfFiles tree (.fileNotWritten path fault)

/-- A class is stored at a place after directories may have been made, or one of the two operations
fails. -/
inductive Storing (path : String) (c : ClassDecl) (w : World σ) :
    Except Failure Place → World σ → List Happening → Prop
  | stored {made tree : FileTree} {p : Place} : w.tree.AddsDirectories made →
      made.locate path = .ok p → FileTree.asksDirectory path = false →
      made.Stores p c.render tree →
      Storing path c w (.ok p) { w with tree := tree } [.wrote path c.render]
  | unmade {holder : String} {made : FileTree} {fault : OsFault} :
      w.tree.makeDirs holder = (made, .error fault) →
      Storing path c w (.error (.directoryNotMade holder fault)) { w with tree := made } []
  | unwritten {made : FileTree} {fault : OsFault} : w.tree.AddsDirectories made →
      made.writeText path c.render = .error fault →
      Storing path c w (.error (.fileNotWritten path fault)) { w with tree := made } []

theorem store_storing (path : String) (c : ClassDecl) (dialog : Dialog σ) {w : World σ}
    {made : FileTree} (h : w.tree.AddsDirectories made) :
    ∃ stored w' trace, Storing path c w stored w' trace ∧
      (Task.ofOutcome (.fileNotWritten path) (.store path c.render)).run.eval dialog
        { w with tree := made } = ⟨stored.map fun _ => (), w', trace⟩ := by
  cases hWrite : made.writeText path c.render with
  | ok tree =>
    obtain ⟨p, hLocate, hFile, hStores⟩ := FileTree.exists_stores_of_writeText hWrite
    have hStore : (Program.store path c.render).eval dialog { w with tree := made } =
        ⟨.ok (), { w with tree := tree }, [.wrote path c.render]⟩ := by
      simp [Program.store, Program.eval, hWrite, Result.after]
    exact ⟨_, _, _, .stored h hLocate hFile hStores, Task.eval_ofOutcome_of_ok dialog _ hStore _⟩
  | error fault =>
    have hStore : (Program.store path c.render).eval dialog { w with tree := made } =
        ⟨.error fault, { w with tree := made }, []⟩ := by
      simp [Program.store, Program.eval, hWrite]
    exact ⟨_, _, _, .unwritten h hWrite, Task.eval_ofOutcome_of_error dialog _ hStore _⟩

theorem writeClass_storing (path : String) (c : ClassDecl) (dialog : Dialog σ) (w : World σ) :
    ∃ stored w' trace, Storing path c w stored w' trace ∧
      (writeClass path c).run.eval dialog w = ⟨stored.map fun _ => (), w', trace⟩ := by
  rw [writeClass]
  cases Path.parent? path with
  | none => exact store_storing path c dialog (.refl w.tree)
  | some holder =>
    have hMakes := w.tree.makeDirs_addsDirectories holder
    have hDirs : (Program.ensureDirs holder).eval dialog w =
        ⟨(w.tree.makeDirs holder).2, { w with tree := (w.tree.makeDirs holder).1 }, []⟩ := rfl
    cases hMade : (w.tree.makeDirs holder).2 with
    | ok _ =>
      rw [hMade] at hDirs
      obtain ⟨stored, w', trace, hStoring, hEval⟩ := store_storing path c dialog hMakes
      refine ⟨stored, w', trace, hStoring, ?_⟩
      rw [← hEval]
      exact Task.eval_andThen_of_ok dialog w (Task.eval_ofOutcome_of_ok dialog w hDirs _) _
    | error fault =>
      rw [hMade] at hDirs
      exact ⟨_, _, _, .unmade (Prod.ext rfl hMade),
        Task.eval_andThen_of_error dialog w (Task.eval_ofOutcome_of_error dialog w hDirs _) _⟩

/-! ## Placing a class -/

/-- The path of the file for a class. -/
def Job.pathOf (job : Job) (c : ClassDecl) : String :=
  Path.join job.output c.sourcePath

/-- What comes of a class that is to be placed; if it is written, then at a place. -/
inductive Fate where
  | wrote (p : Place)
  | kept
  | failed (failure : Failure)

def Fate.enter (path : String) (s : Summary) : Fate → Except Failure Summary
  | wrote _ => .ok (s.addWritten path)
  | kept => .ok (s.addKept path)
  | failed failure => .error failure

def Fate.ofStored : Except Failure Place → Fate
  | .ok p => wrote p
  | .error failure => failed failure

inductive Placing (job : Job) (strategy : Strategy) (dialog : Dialog σ) (c : ClassDecl)
    (w : World σ) : Fate → World σ → List Happening → Prop
  | granted {leave : Result σ Bool} {stored : Except Failure Place} {w' : World σ}
      {trace : List Happening} :
      Leave job strategy dialog (job.pathOf c) w leave → leave.value = true →
      Storing (job.pathOf c) c leave.world stored w' trace →
      Placing job strategy dialog c w (.ofStored stored) w' (leave.trace ++ trace)
  | denied {leave : Result σ Bool} :
      Leave job strategy dialog (job.pathOf c) w leave → leave.value = false →
      Placing job strategy dialog c w .kept leave.world
        (leave.trace ++ [.noted (.fileKept (job.pathOf c))])

theorem placeClass_placing (job : Job) (strategy : Strategy) (dialog : Dialog σ) (c : ClassDecl)
    (w : World σ) (s : Summary) :
    ∃ fate w' trace, Placing job strategy dialog c w fate w' trace ∧
      (placeClass job strategy s c).run.eval dialog w =
        ⟨fate.enter (job.pathOf c) s, w', trace⟩ := by
  have hLeave := mayWrite_leave job strategy dialog (job.pathOf c) w
  rw [placeClass, ← Job.pathOf]
  simp only [Task.eval_ofProgram_andThen]
  generalize (mayWrite job strategy (job.pathOf c)).eval dialog w = leave at hLeave ⊢
  cases hValue : leave.value with
  | false => exact ⟨_, _, _, .denied hLeave hValue, rfl⟩
  | true =>
    obtain ⟨stored, w', trace, hStoring, hEval⟩ :=
      writeClass_storing (job.pathOf c) c dialog leave.world
    refine ⟨_, _, _, .granted hLeave hValue hStoring, ?_⟩
    simp only [if_true]
    cases stored with
    | ok p =>
      rw [Task.eval_andThen_of_ok dialog _ hEval]
      simp [Result.after, Fate.enter, Fate.ofStored]
    | error failure =>
      rw [Task.eval_andThen_of_error dialog _ hEval]
      rfl

namespace Placing

variable {job : Job} {strategy : Strategy} {dialog : Dialog σ} {c : ClassDecl} {w w' : World σ}
  {trace : List Happening}

theorem of_wrote {p : Place} (h : Placing job strategy dialog c w (.wrote p) w' trace) :
    ∃ leave made, Leave job strategy dialog (job.pathOf c) w leave ∧ leave.value = true ∧
      w.tree.AddsDirectories made ∧ made.locate (job.pathOf c) = .ok p ∧
      FileTree.asksDirectory (job.pathOf c) = false ∧ made.Stores p c.render w'.tree ∧
      w'.source = leave.world.source ∧
      trace = leave.trace ++ [.wrote (job.pathOf c) c.render] := by
  generalize hFate : Fate.wrote p = fate at h
  cases h with
  | denied => cases hFate
  | @granted leave _ _ _ hLeave hValue hStoring =>
    cases hStoring with
    | @stored made _ _ hMakes hLocate hFile hStores =>
      cases hFate
      rw [hLeave.tree_eq] at hMakes
      exact ⟨leave, made, hLeave, hValue, hMakes, hLocate, hFile, hStores, rfl, rfl⟩
    | unmade => cases hFate
    | unwritten => cases hFate

theorem of_kept (h : Placing job strategy dialog c w .kept w' trace) :
    ∃ leave, Leave job strategy dialog (job.pathOf c) w leave ∧ leave.value = false ∧
      w' = leave.world ∧ trace = leave.trace ++ [.noted (.fileKept (job.pathOf c))] := by
  generalize hFate : Fate.kept = fate at h
  cases h with
  | denied hLeave hValue => exact ⟨_, hLeave, hValue, rfl, rfl⟩
  | granted _ _ hStoring => cases hStoring <;> cases hFate

/-- A class that cannot be placed changes no file. -/
theorem of_failed {failure : Failure}
    (h : Placing job strategy dialog c w (.failed failure) w' trace) :
    w.tree.AddsDirectories w'.tree ∧ failure.OfFiles w'.tree := by
  generalize hFate : Fate.failed failure = fate at h
  cases h with
  | denied => cases hFate
  | granted hLeave _ hStoring =>
    cases hStoring with
    | stored => cases hFate
    | @unmade holder made fault hMade =>
      cases hFate
      rw [hLeave.tree_eq] at hMade
      have hMakes := w.tree.makeDirs_addsDirectories holder
      rw [hMade] at hMakes
      exact ⟨hMakes, .directory hMade⟩
    | unwritten hMakes hWrite =>
      cases hFate
      rw [hLeave.tree_eq] at hMakes
      exact ⟨hMakes, .file hWrite⟩

end Placing

end BeanGen.Run
