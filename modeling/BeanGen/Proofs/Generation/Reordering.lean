import BeanGen.Proofs.Generation.History

/-!
# Types in another order

A type whose name is free is generated from the settings alone, without a question, and all that it
leaves behind is a record under its own name. Records under different names commute, so types with
different names may come in any order.
-/

namespace BeanGen.Generation

open Conflict Java

variable {σ : Type}

/-! ## Types by themselves -/

/-- The classes that a type with a free name gets, or why it gets none. -/
def classesAlone (s : Settings) (t : BoundType) : Except BindError (List ClassDecl) :=
  (classesOf s (qualifiedType s t)).map fun made => made.1 :: made.2

/-- What is reported of a type with a free name. -/
def reportAlone (s : Settings) (t : BoundType) : List Happening :=
  match classesAlone s t with
  | .ok classes => [.noted (.typeGenerated (s.qualify t.name) classes.length)]
  | .error _ => []

/-- The generator after a type with a free name. -/
def Generator.remember (g : Generator) (s : Settings) (t : BoundType) : Generator :=
  match classesOf s (qualifiedType s t) with
  | .ok (bound, descriptors) => g.record (qualifiedType s t) bound (bound :: descriptors)
  | .error _ => g

section Alone

variable {s : Settings} {g : Generator} {t : BoundType}

theorem classesAlone_of_ok {made : ClassDecl × List ClassDecl}
    (h : classesOf s (qualifiedType s t) = .ok made) :
    classesAlone s t = .ok (made.1 :: made.2) := by
  rw [classesAlone, h]
  rfl

theorem classesAlone_of_error {e : BindError} (h : classesOf s (qualifiedType s t) = .error e) :
    classesAlone s t = .error e := by
  rw [classesAlone, h]
  rfl

theorem reportAlone_of_ok {classes : List ClassDecl} (h : classesAlone s t = .ok classes) :
    reportAlone s t = [.noted (.typeGenerated (s.qualify t.name) classes.length)] := by
  delta reportAlone
  rw [h]

theorem reportAlone_of_error {e : BindError} (h : classesAlone s t = .error e) :
    reportAlone s t = [] := by
  delta reportAlone
  rw [h]

theorem Generator.remember_of_ok {made : ClassDecl × List ClassDecl}
    (h : classesOf s (qualifiedType s t) = .ok made) :
    g.remember s t = g.record (qualifiedType s t) made.1 (made.1 :: made.2) := by
  delta Generator.remember
  rw [h]

theorem Generator.remember_of_error {e : BindError}
    (h : classesOf s (qualifiedType s t) = .error e) : g.remember s t = g := by
  delta Generator.remember
  rw [h]

end Alone

section Free

variable {s : Settings} {g : Generator} (hSettings : g.settings = s)
include hSettings

/-- Where the name of a type is free, no question is asked, and what came before has no say. -/
theorem answer_generate_of_free {t : BoundType} (hFree : g.emitted? (s.qualify t.name) = none)
    (dialog : Option (Dialog σ)) (source : σ) :
    (g.generate t).answer dialog source =
      ⟨(g.remember s t, classesAlone s t), source, reportAlone s t⟩ := by
  subst hSettings
  have hSettles : g.settle (qualifiedType g.settings t) = .done (.ok g.state) := by
    rw [Generator.settle, name_qualifiedType, hFree]
    rfl
  cases hCheck : (qualifiedType g.settings t).check with
  | error fault =>
    have hFails : classesOf g.settings (qualifiedType g.settings t) = .error fault.toError := by
      rw [classesOf, buildClass_eq, BoundType.validate, hCheck]
      rfl
    have hAlone := classesAlone_of_error hFails
    rw [hAlone, reportAlone_of_error hAlone, Generator.remember_of_error hFails, Generator.generate]
    simp [BoundType.validate, hCheck, Except.mapError]
  | ok _ =>
    rw [Generator.generate]
    simp only [BoundType.validate, hCheck, Except.mapError]
    rw [hSettles, Inquiry.answer_andThen]
    simp only [Inquiry.answer, Generator.produce]
    cases hClasses : classesOf g.settings (qualifiedType g.settings t) with
    | error e =>
      have hAlone := classesAlone_of_error hClasses
      rw [hAlone, reportAlone_of_error hAlone, Generator.remember_of_error hClasses]
      rfl
    | ok made =>
      have hAlone := classesAlone_of_ok hClasses
      rw [hAlone, reportAlone_of_ok hAlone, Generator.remember_of_ok hClasses]
      rfl

theorem turn_of_free {call : Call σ} (hFree : g.emitted? (s.qualify call.type.name) = none) :
    call.turn g = ⟨call.type, classesAlone s call.type, reportAlone s call.type⟩ := by
  rw [Call.turn, Call.outcome, answer_generate_of_free hSettings hFree]

omit hSettings in
theorem turn_of_new (s : Settings) (strategy : Strategy) (call : Call σ) :
    call.turn (.ofStrategy s strategy) =
      ⟨call.type, classesAlone s call.type, reportAlone s call.type⟩ := by
  have hFree : (Generator.ofStrategy s strategy).emitted? (s.qualify call.type.name) = none := rfl
  exact turn_of_free rfl hFree

end Free

namespace Generator

variable (g : Generator) (s : Settings) (t : BoundType)

theorem emitted?_remember {n : String} (hName : n ≠ s.qualify t.name) :
    (g.remember s t).emitted? n = g.emitted? n := by
  cases hClasses : classesOf s (qualifiedType s t) with
  | error e => rw [remember_of_error hClasses]
  | ok made =>
    rw [remember_of_ok hClasses, record, emitted?, Text.lookup_insertEntry, name_qualifiedType,
      if_neg hName, emitted?]

theorem record_comm {t u : BoundType} (hName : t.name ≠ u.name) (c d : ClassDecl)
    (cs ds : List ClassDecl) :
    (g.record t c cs).record u d ds = (g.record u d ds).record t c cs := by
  have hMarks : (g.state.markAll (cs.map (·.name))).markAll (ds.map (·.name)) =
      (g.state.markAll (ds.map (·.name))).markAll (cs.map (·.name)) :=
    RunState.markAll_comm g.state (cs.map (·.name)) (ds.map (·.name))
  simp only [record]
  rw [hMarks, Text.insertEntry_comm hName]

theorem remember_comm {t u : BoundType} (hName : s.qualify t.name ≠ s.qualify u.name) :
    (g.remember s t).remember s u = (g.remember s u).remember s t := by
  cases hFirst : classesOf s (qualifiedType s t) with
  | error e => rw [remember_of_error hFirst, remember_of_error hFirst]
  | ok made =>
    cases hSecond : classesOf s (qualifiedType s u) with
    | error e => rw [remember_of_error hSecond, remember_of_error hSecond]
    | ok more =>
      rw [remember_of_ok hFirst, remember_of_ok hSecond, remember_of_ok hFirst,
        remember_of_ok hSecond]
      exact record_comm g hName made.1 more.1 (made.1 :: made.2) (more.1 :: more.2)

end Generator

/-! ## Types one after another -/

/-- No question was answered. -/
def Unasked (trace : List Happening) : Prop :=
  ∀ q c, .answered q c ∉ trace

theorem unasked_reportAlone (s : Settings) (t : BoundType) : Unasked (reportAlone s t) := by
  intro q c hAnswered
  cases hClasses : classesAlone s t with
  | error e =>
    rw [reportAlone_of_error hClasses] at hAnswered
    cases hAnswered
  | ok classes =>
    rw [reportAlone_of_ok hClasses, List.mem_singleton] at hAnswered
    cases hAnswered

namespace History

variable (s : Settings) (strategy : Strategy)

/-- A new generator after types with free names. -/
def remembered (types : List BoundType) : Generator :=
  types.foldl (·.remember s ·) (.ofStrategy s strategy)

theorem emitted?_foldl_remember {types : List BoundType} {n : String}
    (hName : n ∉ types.map (s.qualify ·.name)) (g : Generator) :
    (types.foldl (·.remember s ·) g).emitted? n = g.emitted? n := by
  induction types generalizing g with
  | nil => rfl
  | cons t types ih =>
    rw [List.map_cons, List.mem_cons, not_or] at hName
    rw [List.foldl_cons, ih hName.2, Generator.emitted?_remember g s t hName.1]

/-- Every type finds its name free. So the generator remembers one type after another, and each turn
is that of a new generator. -/
theorem after_eq_of_distinct {calls : List (Call σ)}
    (hDistinct : (calls.map fun call => s.qualify call.type.name).Nodup) :
    after s strategy calls =
      { generator := remembered s strategy (calls.map (·.type))
        turns := calls.map (·.turn (.ofStrategy s strategy)) } := by
  induction calls using List.reverseRecOn with
  | nil => rfl
  | append_singleton calls call ih =>
    rw [List.map_append, List.nodup_append'] at hDistinct
    obtain ⟨hBefore, -, hNew⟩ := hDistinct
    have hName : s.qualify call.type.name ∉ (calls.map (·.type)).map (s.qualify ·.name) := by
      rw [List.map_map]
      exact fun hTaken => hNew hTaken List.mem_cons_self
    have hSettings := settings_after s strategy calls
    rw [ih hBefore] at hSettings
    have hFree : (remembered s strategy (calls.map (·.type))).emitted?
        (s.qualify call.type.name) = none :=
      emitted?_foldl_remember s hName (.ofStrategy s strategy)
    have hOutcome := answer_generate_of_free hSettings hFree call.dialog call.source
    have hTurn := turn_of_free hSettings hFree
    rw [after_append_singleton, ih hBefore, extend, hTurn, Call.outcome, hOutcome, List.map_append,
      List.map_append, List.map_singleton, List.map_singleton, turn_of_new, remembered, remembered,
      List.foldl_append]
    rfl

/-- Types with different names leave the same behind in any order. -/
theorem remembered_perm {types others : List BoundType}
    (hDistinct : (types.map (s.qualify ·.name)).Nodup) (hPerm : types.Perm others) :
    remembered s strategy types = remembered s strategy others := by
  refine hPerm.foldl_eq' ?_ _
  intro t ht u hu g
  by_cases hName : s.qualify t.name = s.qualify u.name
  · rw [List.inj_on_of_nodup_map hDistinct ht hu hName]
  · exact g.remember_comm s hName

end History

/-- Types with different names may come in any order, whatever dialogs are at hand: each turn is
that of a new generator, no question is answered, and the generator knows the same in the end. -/
theorem any_order_of_distinct (s : Settings) (strategy : Strategy) {calls : List (Call σ)}
    (hDistinct : (calls.map fun call => s.qualify call.type.name).Nodup) :
    (History.after s strategy calls).turns = calls.map (·.turn (.ofStrategy s strategy)) ∧
    (∀ turn ∈ (History.after s strategy calls).turns, Unasked turn.trace) ∧
    ∀ others : List (Call σ), (others.map (·.type)).Perm (calls.map (·.type)) →
      (History.after s strategy others).generator = (History.after s strategy calls).generator := by
  have hAfter := History.after_eq_of_distinct s strategy hDistinct
  rw [hAfter]
  refine ⟨rfl, ?_, ?_⟩
  · intro turn hTurn
    obtain ⟨call, -, rfl⟩ := List.mem_map.mp hTurn
    rw [turn_of_new]
    exact unasked_reportAlone s call.type
  · intro others hPerm
    have hNames : (others.map fun call => s.qualify call.type.name).Perm
        (calls.map fun call => s.qualify call.type.name) := by
      simpa [List.map_map, Function.comp_def] using hPerm.map (s.qualify ·.name)
    have hTypes : ((others.map (·.type)).map (s.qualify ·.name)).Nodup := by
      simpa [List.map_map, Function.comp_def] using hNames.nodup_iff.mpr hDistinct
    rw [History.after_eq_of_distinct s strategy (hNames.nodup_iff.mpr hDistinct)]
    exact History.remembered_perm s strategy hTypes hPerm

/-- A plain order, a line whose field lacks a suffix, and a basket whose identity has no column. -/
def mixedCalls : List (Call (List Char)) :=
  [.ofName "Order", { BoundType.ofName "Line" with fields := [.single "_count" .int ""] },
    { BoundType.ofName "Basket" with
      identities := ["items"], fields := [.collection "_items" .string "Item" 0] }].map
    fun t => ⟨t, some scripted, ['y']⟩

def relationalSettings : Settings :=
  { Settings.standard with package := "shop", generateJdoDescriptors := true }

theorem any_order_of_distinct_mixed :
    (History.after relationalSettings .warnViaConsoleDialog mixedCalls).turns =
      mixedCalls.map (·.turn (.ofStrategy relationalSettings .warnViaConsoleDialog)) ∧
    (History.after relationalSettings .warnViaConsoleDialog mixedCalls.reverse).generator =
      (History.after relationalSettings .warnViaConsoleDialog mixedCalls).generator ∧
    (mixedCalls.map fun call => (classesAlone relationalSettings call.type).toOption.isSome) =
      [true, false, false] := by
  have hDistinct :
      (mixedCalls.map fun call => relationalSettings.qualify call.type.name).Nodup := by
    decide +kernel
  obtain ⟨hTurns, -, hOrder⟩ :=
    any_order_of_distinct relationalSettings .warnViaConsoleDialog hDistinct
  refine ⟨hTurns, hOrder _ ?_, by decide +kernel⟩
  exact (List.reverse_perm mixedCalls).map (·.type)

end BeanGen.Generation
