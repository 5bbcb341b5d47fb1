import BeanGen.Conflict.Inquiry
import BeanGen.Run.FileTree

/-!
# Programs

A program is a computation that, besides what an inquiry does, prints and works on files. It is
carried out on the real system by the command line; evaluating it on a world, which is a file tree
and a source of answers, gives its value, the world afterwards and a trace of what happened.
-/

namespace BeanGen.Run

open Conflict

/-- A computation that reports, asks, prints and works on files. -/
inductive Program (α : Type) where
  | done (value : α)
  | note (event : Event) (next : Program α)
  | ask (question : Question) (next : Char → Program α)
  | print (text : String) (next : Program α)
  | logAt (configured : String) (verbose : Bool) (next : Program α)
  | findPath (path : String) (next : Bool → Program α)
  | readText (path : String) (next : Except OsFault String → Program α)
  | makeDirs (path : String) (next : Except OsFault Unit → Program α)
  | writeText (path text : String) (next : Except OsFault Unit → Program α)

namespace Program

variable {α β γ : Type}

def bind : Program α → (α → Program β) → Program β
  | done a, f => f a
  | note e next, f => note e (next.bind f)
  | ask q next, f => ask q fun c => (next c).bind f
  | print text next, f => print text (next.bind f)
  | logAt configured verbose next, f => logAt configured verbose (next.bind f)
  | findPath path next, f => findPath path fun b => (next b).bind f
  | readText path next, f => readText path fun r => (next r).bind f
  | makeDirs path next, f => makeDirs path fun r => (next r).bind f
  | writeText path text next, f => writeText path text fun r => (next r).bind f

instance : Monad Program where
  pure := done
  bind := bind

/-- An inquiry as a program; there is always someone to ask. -/
def ofInquiry : Inquiry α → Program α
  | .done a => done a
  | .note e next => note e (ofInquiry next)
  | .ask q next => ask q fun c => ofInquiry (next (some c))

def report (e : Event) : Program Unit :=
  note e (done ())

def printText (text : String) : Program Unit :=
  print text (done ())

def setLog (configured : String) (verbose : Bool) : Program Unit :=
  logAt configured verbose (done ())

def present (path : String) : Program Bool :=
  findPath path done

def load (path : String) : Program (Except OsFault String) :=
  readText path done

def ensureDirs (path : String) : Program (Except OsFault Unit) :=
  makeDirs path done

def store (path text : String) : Program (Except OsFault Unit) :=
  writeText path text done

theorem bind_done (m : Program α) : m.bind done = m := by
  induction m with
  | findPath path next ih => simp only [bind, ih]
  | _ => simp_all [bind]

theorem bind_assoc (m : Program α) (f : α → Program β) (g : β → Program γ) :
    (m.bind f).bind g = m.bind fun a => (f a).bind g := by
  induction m with
  | findPath path next ih => simp only [bind, ih]
  | _ => simp_all [bind]

end Program

/-! ## Evaluation -/

structure World (σ : Type) where
  tree : FileTree
  source : σ

/-- A value, the world afterwards, and what happened meanwhile. -/
structure Result (σ α : Type) where
  value : α
  world : World σ
  trace : List Happening

def Result.after {σ α : Type} (before : List Happening) (r : Result σ α) : Result σ α :=
  { r with trace := before ++ r.trace }

def Program.eval {σ α : Type} (dialog : Dialog σ) : Program α → World σ → Result σ α
  | done a, w => ⟨a, w, []⟩
  | note e next, w => (next.eval dialog w).after [.noted e]
  | ask q next, w =>
    let r := dialog q w.source
    ((next r.answer).eval dialog { w with source := r.rest }).after
      (r.trace ++ [.answered q r.answer])
  | print text next, w => (next.eval dialog w).after [.printed text]
  | logAt _ _ next, w => next.eval dialog w
  | findPath path next, w => (next (w.tree.contains path)).eval dialog w
  | readText path next, w => (next (w.tree.readText path)).eval dialog w
  | makeDirs path next, w =>
    let (tree, outcome) := w.tree.makeDirs path
    (next outcome).eval dialog { w with tree := tree }
  | writeText path text next, w =>
    match w.tree.writeText path text with
    | .ok tree => ((next (.ok ())).eval dialog { w with tree := tree }).after [.wrote path text]
    | .error fault => (next (.error fault)).eval dialog w

theorem Program.eval_bind {σ α β : Type} (dialog : Dialog σ) (m : Program α) (f : α → Program β)
    (w : World σ) :
    (m.bind f).eval dialog w =
      ((f (m.eval dialog w).value).eval dialog (m.eval dialog w).world).after
        (m.eval dialog w).trace := by
  induction m generalizing w with
  | writeText path text next ih =>
    simp only [Program.bind, Program.eval]
    split <;> simp [Result.after, ih]
  | findPath path next ih => simp only [Program.bind, Program.eval, ih]
  | _ => simp_all [Program.bind, Program.eval, Result.after]

end BeanGen.Run
