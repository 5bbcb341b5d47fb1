import BeanGen.Conflict.Event

/-!
# Inquiries

An inquiry is a computation that reports events and puts questions to a user. It says nothing about
where answers come from: without a dialog at hand a question gets no answer, with one the dialog
draws each answer from a source. Answering an inquiry gives its value, the rest of the source and a
trace of what happened, in order.
-/

namespace BeanGen.Conflict

/-- A question with the characters that may answer it, and what they stand for. -/
structure Question where
  message : String
  responses : String
  legend : String
  deriving DecidableEq, Repr, Inhabited

/-- A computation that reports events and asks questions. -/
inductive Inquiry (α : Type) where
  | done (value : α)
  | note (event : Event) (next : Inquiry α)
  | ask (question : Question) (next : Option Char → Inquiry α)

namespace Inquiry

variable {α β γ : Type}

def bind : Inquiry α → (α → Inquiry β) → Inquiry β
  | done a, f => f a
  | note e next, f => note e (next.bind f)
  | ask q next, f => ask q fun c => (next c).bind f

instance : Monad Inquiry where
  pure := done
  bind := bind

def report (e : Event) : Inquiry Unit :=
  note e (done ())

def reportAll : List Event → Inquiry Unit
  | [] => done ()
  | e :: es => note e (reportAll es)

def confirm (q : Question) : Inquiry (Option Char) :=
  ask q done

theorem bind_done (m : Inquiry α) : m.bind done = m := by
  induction m with
  | done => rfl
  | note e next ih => simp [bind, ih]
  | ask q next ih => simp [bind, ih]

theorem bind_assoc (m : Inquiry α) (f : α → Inquiry β) (g : β → Inquiry γ) :
    (m.bind f).bind g = m.bind fun a => (f a).bind g := by
  induction m with
  | done => rfl
  | note e next ih => simp [bind, ih]
  | ask q next ih => simp [bind, ih]

end Inquiry

/-! ## Answering -/

/-- Something that happened in a run: an event, a text printed, a question answered, a file written.
-/
inductive Happening where
  | noted (event : Event)
  | printed (text : String)
  | answered (question : Question) (answer : Char)
  | wrote (path text : String)
  deriving DecidableEq, Repr, Inhabited

def Happening.event? : Happening → Option Event
  | noted e => some e
  | _ => none

def Happening.text? : Happening → Option String
  | printed s => some s
  | _ => none

/-- An answer, the rest of the source it came from, and what happened before it was accepted. -/
structure Reply (σ : Type) where
  answer : Char
  rest : σ
  trace : List Happening

abbrev Dialog (σ : Type) :=
  Question → σ → Reply σ

/-- A value, the rest of the source of answers, and what happened meanwhile. -/
structure Outcome (σ α : Type) where
  value : α
  rest : σ
  trace : List Happening

def Outcome.after {σ α : Type} (before : List Happening) (o : Outcome σ α) : Outcome σ α :=
  { o with trace := before ++ o.trace }

def Inquiry.answer {σ α : Type} (dialog : Option (Dialog σ)) : Inquiry α → σ → Outcome σ α
  | done a, source => ⟨a, source, []⟩
  | note e next, source => (next.answer dialog source).after [.noted e]
  | ask q next, source =>
    match dialog with
    | none => (next none).answer dialog source
    | some reply =>
      let r := reply q source
      ((next (some r.answer)).answer dialog r.rest).after (r.trace ++ [.answered q r.answer])

/-- A dialog that gives the characters of a script in order and then always declines. -/
def scripted : Dialog (List Char) := fun _ script =>
  match script with
  | [] => ⟨'n', [], []⟩
  | c :: rest => ⟨c, rest, []⟩

theorem Inquiry.answer_bind {σ α β : Type} (dialog : Option (Dialog σ)) (m : Inquiry α)
    (f : α → Inquiry β) (source : σ) :
    (m.bind f).answer dialog source =
      ((f (m.answer dialog source).value).answer dialog (m.answer dialog source).rest).after
        (m.answer dialog source).trace := by
  induction m generalizing source with
  | done a => rfl
  | note e next ih => simp [Inquiry.bind, Inquiry.answer, Outcome.after, ih]
  | ask q next ih =>
    cases dialog with
    | none => simpa [Inquiry.bind, Inquiry.answer] using ih none source
    | some reply => simp [Inquiry.bind, Inquiry.answer, Outcome.after, ih]

end BeanGen.Conflict
