import BeanGen.Generation.Generator
import BeanGen.Proofs.Conflict.Strategy
import BeanGen.Proofs.Generation.BoundClass

/-!
# One type through a generator

A type is refused, or the strategy stops for it, or its relational descriptor cannot be made, or its
classes are produced. `generate_step` says that nothing else happens, and what each case leaves
behind: the generator, the rest of the answers and the trace. Every later statement about a
generator is read off these four cases.
-/

namespace BeanGen.Generation

open Conflict Java

variable {σ : Type}

/-- A clash of names is settled: there is none, or the strategy gives a state to go on with. -/
inductive Settled (g : Generator) (t : BoundType) (dialog : Option (Dialog σ)) (source : σ) :
    Outcome σ RunState → Prop
  | free : g.emitted? t.name = none → Settled g t dialog source ⟨g.state, source, []⟩
  | allowed {taken : ClassDecl} {o : Outcome σ RunState} : g.emitted? t.name = some taken →
      o = (g.strategy.onNameClash g.state t taken).answer dialog source →
      o.value.isStopped = false →
      Settled g t dialog source (o.after [.noted (.strategyConsulted t.name g.strategy.name)])

inductive Step (g : Generator) (t : BoundType) (dialog : Option (Dialog σ)) (source : σ) :
    Outcome σ (Generator × Except BindError (List ClassDecl)) → Prop
  | refused {fault : ModelFault} : t.check = .error fault →
      Step g t dialog source ⟨(g, .error fault.toError), source, []⟩
  | stopped {taken : ClassDecl} {o : Outcome σ RunState} : t.check = .ok () →
      g.emitted? t.name = some taken →
      o = (g.strategy.onNameClash g.state t taken).answer dialog source →
      o.value.isStopped = true →
      Step g t dialog source ⟨(g, .error (g.abortion t)), o.rest,
        .noted (.strategyConsulted t.name g.strategy.name) ::
          (o.trace ++ [.noted (.generationStopped t.name)])⟩
  | unmapped {fault : ModelFault} {o : Outcome σ RunState} : t.check = .ok () →
      Settled g t dialog source o → relationalClasses g.settings t = .error fault →
      Step g t dialog source ⟨({ g with state := o.value }, .error fault.toError), o.rest, o.trace⟩
  | produced {relational classes : List ClassDecl} {o : Outcome σ RunState} : t.check = .ok () →
      Settled g t dialog source o → relationalClasses g.settings t = .ok relational →
      classes = boundClass g.settings t :: (xmlClasses g.settings t ++ relational) →
      Step g t dialog source ⟨(({ g with state := o.value }).record t (boundClass g.settings t) classes,
        .ok classes), o.rest, o.trace ++ [.noted (.typeGenerated t.name classes.length)]⟩

theorem relationalClasses_cases {s : Settings} {t : BoundType} {classes : List ClassDecl}
    (h : relationalClasses s t = .ok classes) :
    (s.generateJdoDescriptors = false ∧ classes = []) ∨
      (s.generateJdoDescriptors = true ∧ ∃ d, classes = [d] ∧
        Descriptor.Relational.describe s (Descriptor.Relational.nameFor s t.name) t = .ok d) := by
  rw [relationalClasses] at h
  cases hAsked : s.generateJdoDescriptors with
  | false =>
    rw [hAsked] at h
    cases h
    exact .inl ⟨rfl, rfl⟩
  | true =>
    rw [hAsked, if_pos rfl] at h
    cases hDescribe :
        Descriptor.Relational.describe s (Descriptor.Relational.nameFor s t.name) t with
    | error fault =>
      rw [hDescribe] at h
      cases h
    | ok d =>
      rw [hDescribe] at h
      cases h
      exact .inr ⟨rfl, d, rfl, rfl⟩

theorem classesOf_eq {t : BoundType} (h : t.check = .ok ()) (s : Settings) :
    classesOf s t = ((relationalClasses s t).mapError ModelFault.toError).map fun relational =>
      (boundClass s t, xmlClasses s t ++ relational) := by
  rw [classesOf, buildClass_of_check h]
  rfl

theorem produce_step {g : Generator} {t : BoundType} {dialog : Option (Dialog σ)} {source : σ}
    {o : Outcome σ RunState} (hCheck : t.check = .ok ()) (hSettled : Settled g t dialog source o) :
    Step g t dialog source
      (((Generator.produce { g with state := o.value } t).answer dialog o.rest).after o.trace) := by
  rw [Generator.produce, classesOf_eq hCheck]
  cases hRelational : relationalClasses g.settings t with
  | error fault =>
    have hStep := Step.unmapped hCheck hSettled hRelational
    simpa [Outcome.after, Except.mapError, Except.map, hRelational] using hStep
  | ok relational =>
    have hStep := Step.produced hCheck hSettled hRelational rfl
    simpa [Outcome.after, Except.mapError, Except.map, hRelational] using hStep

theorem generate_step (g : Generator) (t : BoundType) (dialog : Option (Dialog σ)) (source : σ) :
    Step g (qualifiedType g.settings t) dialog source ((g.generate t).answer dialog source) := by
  rw [Generator.generate]
  generalize hq : qualifiedType g.settings t = q
  cases hCheck : q.check with
  | error fault =>
    simp only [BoundType.validate, hCheck, Except.mapError]
    exact .refused hCheck
  | ok _ =>
    simp only [BoundType.validate, hCheck, Except.mapError]
    rw [Inquiry.answer_andThen, Generator.settle]
    cases hTaken : g.emitted? q.name with
    | none => exact produce_step hCheck (.free hTaken)
    | some taken =>
      simp only [Inquiry.answer_report_bind]
      rw [Inquiry.answer_andThen]
      generalize hAnswer : (g.strategy.onNameClash g.state q taken).answer dialog source = o
      cases hStopped : o.value.isStopped with
      | true =>
        have hStep := Step.stopped hCheck hTaken hAnswer.symm hStopped
        simpa [Outcome.after, hStopped] using hStep
      | false =>
        have hStep := produce_step hCheck (.allowed hTaken hAnswer.symm hStopped)
        simpa [Outcome.after, hStopped] using hStep

end BeanGen.Generation
