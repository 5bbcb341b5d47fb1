import BeanGen.Proofs.Conflict.Registry
import BeanGen.Proofs.Conflict.Terminal
import BeanGen.Proofs.Run.Backing
import BeanGen.Proofs.Run.Outcome

/-!
# What a run asks before

A run that asks at a terminal shares one input among all its questions. Each deed reads a part of
the input of its own, and where a deed replaces a file, or goes on past a clash of names, the last
line of its part says yes. For files this takes a tree that backs the output directory: the look
whether a file is there comes before the directories on the way to it are made, so where the path
goes into one of those and up again, the file is not found and is replaced without a question.
-/

namespace BeanGen.Run

open Conflict Generation Java Terminal

/-- The part of the input that a deed reads. -/
def Deed.read (d : Deed (List RawLine)) : List RawLine :=
  d.before.source.take (d.before.source.length - d.after.source.length)

/-- A valid type whose qualified name an earlier type has taken. -/
def Clashes {σ : Type} (s : Settings) (earlier : List (Deed σ)) (t : BoundType) : Prop :=
  (qualifiedType s t).check = .ok () ∧ ∃ old ∈ turnsOf earlier, old.Produced s (s.qualify t.name)

def Aborted (turn : Turn) : Prop :=
  ∃ name reason, turn.result = .error (.generationAborted name reason)

/-- A question about the clash of a turn was granted before anything else came of the turn. -/
def GrantedPast (s : Settings) (d : Deed (List RawLine)) (turn : Turn) : Prop :=
  ∃ taken asked,
    Granted (Strategy.clashQuestion (s.qualify turn.type.name) taken) d.before.source d.after.source
      asked ∧
    .noted (.strategyConsulted (s.qualify turn.type.name) Strategy.warnViaConsoleDialog.name) ::
      asked <+: d.trace

theorem GrantedPast.exists_saysYes {s : Settings} {d : Deed (List RawLine)} {turn : Turn}
    (h : GrantedPast s d turn) : ∃ l ∈ d.before.source, SaysYes l := by
  obtain ⟨taken, asked, hGranted, -⟩ := h
  exact hGranted.exists_saysYes

/-- A question about a file was granted before a deed wrote it, and the deed did nothing else. -/
def GrantedWrite (job : Job) (d : Deed (List RawLine)) (c : ClassDecl) : Prop :=
  ∃ asked,
    Granted (Strategy.overwriteQuestion (job.pathOf c)) d.before.source d.after.source asked ∧
    d.trace = asked ++ [.wrote (job.pathOf c) c.render]

theorem GrantedWrite.exists_saysYes {job : Job} {d : Deed (List RawLine)} {c : ClassDecl}
    (h : GrantedWrite job d c) : ∃ l ∈ d.before.source, SaysYes l := by
  obtain ⟨asked, hGranted, -⟩ := h
  exact hGranted.exists_saysYes

def atTerminal (job : Job) (s : Settings) : Setup (List RawLine) :=
  ⟨job, s, .warnViaConsoleDialog, Terminal.confirm⟩

/-! ## The input -/

section Input

variable {job : Job} {s : Settings} {w w' : World (List RawLine)}
  {deeds earlier : List (Deed (List RawLine))} {d : Deed (List RawLine)}

theorem Does.source_suffix (h : Does (atTerminal job s) earlier d) :
    d.after.source <:+ d.before.source := by
  cases h with
  | turn t w => exact answer_suffix _ w.source
  | @place c fate w w' trace hPlacing =>
    have hLeave {leave : Result (List RawLine) Bool}
        (h : Leave job .warnViaConsoleDialog Terminal.confirm (job.pathOf c) w leave) :
        leave.world.source <:+ w.source := by
      cases h with
      | unasked => exact List.suffix_refl w.source
      | asked _ _ hOutcome => exact hOutcome ▸ answer_suffix _ w.source
    cases hPlacing with
    | granted hGiven _ hStoring => cases hStoring <;> exact hLeave hGiven
    | denied hGiven _ => exact hLeave hGiven

theorem Does.source_eq (h : Does (atTerminal job s) earlier d) :
    d.before.source = d.read ++ d.after.source := by
  obtain ⟨block, hBlock⟩ := h.source_suffix
  have hRead : d.read = block := by
    rw [Deed.read, ← hBlock]
    simp
  rw [hRead, hBlock]

theorem Ledger.source_eq (h : Ledger (atTerminal job s) w deeds w') :
    w.source = deeds.flatMap Deed.read ++ w'.source := by
  induction h with
  | nil => rfl
  | snoc _ hDoes ih =>
    rw [ih, hDoes.source_eq]
    simp

end Input

/-! ## Files -/

section Files

variable {job : Job} {s : Settings} {w w' : World (List RawLine)}
  {deeds earlier : List (Deed (List RawLine))} {d : Deed (List RawLine)}

theorem Does.rooted {σ : Type} {u : Setup σ} {earlier : List (Deed σ)} {d : Deed σ}
    (h : Does u earlier d) (hRooted : d.before.tree.Rooted) : d.after.tree.Rooted := by
  cases h with
  | turn => exact hRooted
  | @place c fate w w' trace hPlacing =>
    cases fate with
    | wrote p =>
      obtain ⟨_, made, _, _, hMakes, _, _, hStores, _, _⟩ := hPlacing.of_wrote
      exact hStores.rooted (hMakes.rooted hRooted)
    | kept =>
      obtain ⟨leave, hLeave, _, rfl, _⟩ := hPlacing.of_kept
      dsimp only
      rwa [hLeave.tree_eq]
    | failed failure => exact hPlacing.of_failed.1.rooted hRooted

theorem Ledger.rooted {σ : Type} {u : Setup σ} {w w' : World σ} {deeds : List (Deed σ)}
    (h : Ledger u w deeds w') (hRooted : w.tree.Rooted) : w'.tree.Rooted := by
  induction h with
  | nil => exact hRooted
  | snoc _ hDoes ih => exact hDoes.rooted ih

theorem Leave.granted {path : String} {leave : Result (List RawLine) Bool}
    (h : Leave job .warnViaConsoleDialog Terminal.confirm path w leave)
    (hThere : w.tree.contains path = true) (hForce : job.force = false)
    (hValue : leave.value = true) :
    Granted (Strategy.overwriteQuestion path) w.source leave.world.source leave.trace := by
  cases h with
  | unasked hFree =>
    rw [hThere, hForce] at hFree
    simp at hFree
  | asked _ _ hOutcome =>
    rw [Strategy.answer_onFileOverwrite] at hOutcome
    subst hOutcome
    exact granted_of_answer (by simpa using hValue)

theorem Does.granted_of_replaced (h : Does (atTerminal job s) earlier d)
    (hForce : job.force = false) (hRooted : d.before.tree.Rooted)
    (hBacks : d.before.tree.Backs job.output) {c : ClassDecl} {p : Place}
    (hAct : d.act = .placed c (.wrote p)) (hThere : (d.before.tree.textAt? p).isSome = true) :
    GrantedWrite job d c := by
  obtain ⟨leave, made, hLeave, hValue, hMakes, hLocate, hFile, hStores, hSource, hTrace⟩ :=
    (h.placing hAct).of_wrote
  obtain ⟨text, hText⟩ := Option.isSome_iff_exists.mp hThere
  have hNode : (d.before.tree.node? p).isSome = true := by
    rw [FileTree.textAt?_eq_some_iff.mp hText, Option.isSome_some]
  have hBefore : d.before.tree.locate (job.pathOf c) = .ok p :=
    hMakes.keeps.locate_eq_of_later hRooted (hBacks.join c) hNode hLocate
  have hFound := FileTree.contains_of_textAt? hBefore hText hFile
  refine ⟨leave.trace, ?_, hTrace⟩
  rw [hSource]
  exact hLeave.granted hFound hForce hValue

/-- Where nothing in the input says yes, every file stays as it is. -/
theorem Ledger.textAt?_of_silent (h : Ledger (atTerminal job s) w deeds w')
    (hForce : job.force = false) (hRooted : w.tree.Rooted) (hBacks : w.tree.Backs job.output)
    (hSilent : ∀ l ∈ w.source, ¬ SaysYes l) {p : Place} {text : String}
    (hText : w.tree.textAt? p = some text) : w'.tree.textAt? p = some text := by
  rw [← hText]
  by_contra hChanged
  obtain ⟨d, hd, c, hAct⟩ := h.exists_wrote hChanged
  obtain ⟨before, later, rfl⟩ := List.append_of_mem hd
  obtain ⟨hLedger, hDoes, -⟩ := h.of_split
  have hThere : (d.before.tree.textAt? p).isSome = true :=
    hLedger.keeps.file (by rw [hText, Option.isSome_some])
  have hGranted := hDoes.granted_of_replaced hForce (hLedger.rooted hRooted)
    (hLedger.keeps.backs hBacks) hAct hThere
  obtain ⟨l, hl, hYes⟩ := hGranted.exists_saysYes
  refine hSilent l ?_ hYes
  rw [hLedger.source_eq]
  exact List.mem_append_right _ hl

end Files

/-! ## Clashes of names -/

section Clashes

variable {g : Generator} {t : BoundType} {source : List RawLine} {taken : ClassDecl}

theorem eq_yes_of_ne_no {candidate taken : String} {lines : List RawLine}
    (h : (Terminal.confirm (Strategy.clashQuestion candidate taken) lines).answer ≠ 'n') :
    (Terminal.confirm (Strategy.clashQuestion candidate taken) lines).answer = 'y' := by
  rcases answer_cases (Strategy.clashQuestion candidate taken) lines with hListed | hNo
  · have hResponses : "yn".toList = ['y', 'n'] := by decide
    have hAll : (Strategy.clashQuestion candidate taken).responses = "yn" := rfl
    rw [hAll, hResponses] at hListed
    simpa [h] using hListed
  · exact absurd hNo h

/-- A clash that is let pass was granted: the strategy goes on unless the answer is `n`, but here
it is `y` or `n`. -/
theorem granted_of_settled {o : Outcome (List RawLine) RunState}
    (h : Settled g t (some Terminal.confirm) source o)
    (hStrategy : g.strategy = .warnViaConsoleDialog) (hTaken : g.emitted? t.name = some taken) :
    ∃ asked, Granted (Strategy.clashQuestion t.name taken.name) source o.rest asked ∧
      o.trace = .noted (.strategyConsulted t.name g.strategy.name) :: asked := by
  cases h with
  | free hFree => cases hTaken.symm.trans hFree
  | allowed hTaken' hOutcome hGoesOn =>
    cases hTaken.symm.trans hTaken'
    rw [hStrategy] at hOutcome
    have hNotNo :
        (Terminal.confirm (Strategy.clashQuestion t.name taken.name) source).answer ≠ 'n' := by
      intro hNo
      rw [hOutcome, Strategy.isStopped_onNameClash_of_eq _ _ hNo] at hGoesOn
      cases hGoesOn
    rw [Strategy.answer_onNameClash_of_ne _ _ hNotNo] at hOutcome
    subst hOutcome
    exact ⟨_, granted_of_answer (eq_yes_of_ne_no hNotNo), rfl⟩

theorem granted_of_step
    {o : Outcome (List RawLine) (Generator × Except BindError (List ClassDecl))}
    (h : Step g t (some Terminal.confirm) source o) (hStrategy : g.strategy = .warnViaConsoleDialog)
    (hCheck : t.check = .ok ()) (hTaken : g.emitted? t.name = some taken) :
    (∃ reason, o.value.2 = .error (.generationAborted t.name reason)) ∨
      ∃ asked, Granted (Strategy.clashQuestion t.name taken.name) source o.rest asked ∧
        .noted (.strategyConsulted t.name g.strategy.name) :: asked <+: o.trace := by
  cases h with
  | refused hFault => cases hCheck.symm.trans hFault
  | stopped => exact .inl ⟨_, rfl⟩
  | unmapped _ hClash _ =>
    obtain ⟨asked, hGranted, hTrace⟩ := granted_of_settled hClash hStrategy hTaken
    exact .inr ⟨asked, hGranted, hTrace ▸ List.prefix_refl _⟩
  | produced _ hClash _ _ =>
    obtain ⟨asked, hGranted, hTrace⟩ := granted_of_settled hClash hStrategy hTaken
    exact .inr ⟨asked, hGranted, hTrace ▸ List.prefix_append _ _⟩

theorem Ledger.granted_of_clash {job : Job} {s : Settings} {w : World (List RawLine)}
    {earlier : List (Deed (List RawLine))} {d : Deed (List RawLine)}
    (hLedger : Ledger (atTerminal job s) w earlier d.before) (h : Does (atTerminal job s) earlier d)
    {turn : Turn} (hAct : d.act = .turned turn) (hClash : Clashes s earlier turn.type) :
    Aborted turn ∨ GrantedPast s d turn := by
  obtain ⟨hCheck, hOld⟩ := hClash
  rw [← hLedger.turns_eq] at hOld
  obtain ⟨taken, hTaken⟩ := Option.isSome_iff_exists.mp
    ((History.isSome_emitted?_after s .warnViaConsoleDialog
      ((atTerminal job s).calls earlier) _).mpr hOld)
  have hDeed := h.turnDeed hAct
  have hTurn : turn = ((atTerminal job s).call turn.type d.before).turn
      ((atTerminal job s).generator earlier) :=
    Act.turned.inj (hAct.symm.trans (congrArg Deed.act hDeed))
  have hStep :=
    ((atTerminal job s).call turn.type d.before).step ((atTerminal job s).generator earlier)
  rw [(atTerminal job s).settings_generator] at hStep
  have hStrategy := (atTerminal job s).strategy_generator earlier
  rcases granted_of_step hStep hStrategy hCheck hTaken with
    ⟨reason, hAborted⟩ | ⟨asked, hGranted, hPrefix⟩
  · exact .inl ⟨_, reason, (congrArg Turn.result hTurn).trans hAborted⟩
  · refine .inr ⟨taken.name, asked, ?_, ?_⟩
    · rw [hDeed]
      exact hGranted
    · rw [hStrategy] at hPrefix
      rw [hDeed]
      exact hPrefix.trans (List.prefix_append _ _)

end Clashes

/-! ## Runs -/

/-- What a run asks before, told by its deeds. -/
structure Consented (job : Job) (s : Settings) (input : List UInt8) (w w' : World (List RawLine))
    (deeds : List (Deed (List RawLine))) : Prop where
  /-- The deeds read consecutive parts of the input. -/
  parts : input = (deeds.flatMap Deed.read).flatten ++ w'.source.flatten ∧
    ∀ d ∈ deeds, d.before.source = d.read ++ d.after.source
  /-- Before a file is replaced, a question about it is granted. -/
  replaced : ∀ d ∈ deeds, ∀ c p, d.act = .placed c (.wrote p) →
    (d.before.tree.textAt? p).isSome = true → GrantedWrite job d c
  /-- Before a run goes on past a clash of names, a question about it is granted. -/
  continued : ∀ earlier d later turn, deeds = earlier ++ d :: later → d.act = .turned turn →
    Clashes s earlier turn.type → Aborted turn ∨ GrantedPast s d turn
  /-- Where no line says yes, every file stays as it was and every clash is the end of its type. -/
  silent : (∀ l ∈ linesOf input, ¬ SaysYes l) →
    (∀ p text, w.tree.textAt? p = some text → w'.tree.textAt? p = some text) ∧
    ∀ earlier d later turn, deeds = earlier ++ d :: later → d.act = .turned turn →
      Clashes s earlier turn.type → Aborted turn

theorem consented_of_ledger {job : Job} {s : Settings} {input : List UInt8} {tree : FileTree}
    {w' : World (List RawLine)} {deeds : List (Deed (List RawLine))}
    (h : Ledger (atTerminal job s) ⟨tree, linesOf input⟩ deeds w') (hForce : job.force = false)
    (hRooted : tree.Rooted) (hBacks : tree.Backs job.output) :
    Consented job s input ⟨tree, linesOf input⟩ w' deeds := by
  have hClash : ∀ earlier d later turn, deeds = earlier ++ d :: later → d.act = .turned turn →
      Clashes s earlier turn.type → Aborted turn ∨ GrantedPast s d turn := by
    rintro earlier d later turn rfl hAct hClash
    obtain ⟨hLedger, hDoes, -⟩ := h.of_split
    exact hLedger.granted_of_clash hDoes hAct hClash
  constructor
  · constructor
    · have hSource := h.source_eq
      rw [← List.flatten_append, ← hSource, flatten_linesOf]
    · intro d hd
      obtain ⟨earlier, hDoes, -⟩ := h.of_mem hd
      exact hDoes.source_eq
  · intro d hd c p hAct hThere
    obtain ⟨earlier, later, rfl⟩ := List.append_of_mem hd
    obtain ⟨hLedger, hDoes, -⟩ := h.of_split
    exact hDoes.granted_of_replaced hForce (hLedger.rooted hRooted) (hLedger.keeps.backs hBacks)
      hAct hThere
  · exact hClash
  · intro hSilent
    constructor
    · intro p text hText
      exact h.textAt?_of_silent hForce hRooted hBacks hSilent hText
    · rintro earlier d later turn rfl hAct hClashes
      rcases hClash earlier d later turn rfl hAct hClashes with hAborted | hGranted
      · exact hAborted
      · -- the line that grants it would be one of the input
        obtain ⟨l, hl, hYes⟩ := hGranted.exists_saysYes
        obtain ⟨hLedger, -, -⟩ := h.of_split
        have hSource : linesOf input = earlier.flatMap Deed.read ++ d.before.source :=
          hLedger.source_eq
        exact absurd hYes (hSilent l (hSource ▸ List.mem_append_right _ hl))

theorem eq_warnViaConsoleDialog {s : Settings} {strategy : Strategy}
    (hName : s.conflictStrategy = Strategy.warnViaConsoleDialog.name)
    (h : (listed s).1.lookup s.conflictStrategy = .ok strategy) :
    strategy = .warnViaConsoleDialog := by
  rw [Registry.lookup_eq_ok_iff] at h
  obtain ⟨identifier, -, hLoad, hNamed, -⟩ := Registry.exists_identifier_of_strategy? h
  rcases Catalog.load_builtin hLoad with ⟨-, rfl⟩ | ⟨-, rfl⟩
  · rw [hName] at hNamed
    exact absurd hNamed (by decide)
  · rfl

/-- With the strategy that asks and a terminal that reads any input, nothing is replaced and no
clash is passed before a line of its own has said yes; this takes an output directory that the tree
backs. -/
theorem asks_before_replacing (job : Job) (s : Settings) (tree : FileTree) (input : List UInt8)
    (hForce : job.force = false) (hRooted : tree.Rooted) (hBacks : tree.Backs job.output)
    (hName : s.conflictStrategy = Strategy.warnViaConsoleDialog.name) :
    (∀ types, ∃ deeds,
      Account (atTerminal job s) types ⟨tree, linesOf input⟩ deeds
        ((runWith job (.ofStrategy s .warnViaConsoleDialog) types).run.eval Terminal.confirm
          ⟨tree, linesOf input⟩) ∧
      Consented job s input ⟨tree, linesOf input⟩
        ((runWith job (.ofStrategy s .warnViaConsoleDialog) types).run.eval Terminal.confirm
          ⟨tree, linesOf input⟩).world deeds) ∧
    ((∃ failure trace, (run job s).run.eval Terminal.confirm ⟨tree, linesOf input⟩ =
        ⟨.error failure, ⟨tree, linesOf input⟩, trace⟩) ∨
      ∃ types deeds, modelIn tree job.model = .ok types ∧
        Account (atTerminal job s) types ⟨tree, linesOf input⟩ deeds
          ((run job s).run.eval Terminal.confirm ⟨tree, linesOf input⟩) ∧
        Consented job s input ⟨tree, linesOf input⟩
          ((run job s).run.eval Terminal.confirm ⟨tree, linesOf input⟩).world deeds) := by
  have hTypes (types : List BoundType) :=
    exists_account (atTerminal job s) types ⟨tree, linesOf input⟩
  constructor
  · intro types
    obtain ⟨deeds, hAccount⟩ := hTypes types
    exact ⟨deeds, hAccount, consented_of_ledger hAccount.ledger hForce hRooted hBacks⟩
  · rcases run_cases Terminal.confirm ⟨tree, linesOf input⟩ job s with
      ⟨failure, trace, hFailed, -⟩ | ⟨types, strategy, hModel, hLookup, hEval⟩
    · exact .inl ⟨failure, trace, hFailed⟩
    · cases eq_warnViaConsoleDialog hName hLookup
      obtain ⟨deeds, hAccount⟩ := hTypes types
      refine .inr ⟨types, deeds, hModel, ?_⟩
      rw [hEval]
      exact ⟨hAccount.after (listed s).2,
        consented_of_ledger hAccount.ledger hForce hRooted hBacks⟩

/-- A model of one type, and a file that is there for its class. -/
def orderTree : FileTree :=
  ((FileTree.withWorkingDirectory ["work"]).withFile
    "m.json" "[\x7b\"name\":\"Order\"\x7d]").withFile "out/Order.java" "// keep me\n"

theorem orderTree_rooted : orderTree.Rooted :=
  ((FileTree.rooted_withWorkingDirectory ["work"]).withFile _ _).withFile _ _

theorem orderTree_text : orderTree.textAt? ["Order.java", "out", "work"] = some "// keep me\n" := by
  decide +kernel

/-- A line that is no text grants nothing, so the file stays. -/
theorem asks_before_replacing_unreadable :
    FileTree.Backs orderTree "out" ∧ Settings.standard.conflictStrategy = "warnViaConsoleDialog" ∧
    orderTree.textAt? ["Order.java", "out", "work"] = some "// keep me\n" ∧
    ((run ⟨"m.json", "out", false⟩ .standard).run.eval Terminal.confirm
      ⟨orderTree, linesOf [0xFF, 0x0A]⟩).world.tree.textAt? ["Order.java", "out", "work"] =
        some "// keep me\n" := by
  have hBacks : FileTree.Backs orderTree "out" := FileTree.backs_of_not_mem (by decide)
  have hSilent : ∀ l ∈ linesOf [0xFF, 0x0A], ¬ SaysYes l := by
    have hLines : linesOf [0xFF, 0x0A] = [[0xFF, 0x0A]] := by decide
    rw [hLines]
    intro l hl
    rw [List.mem_singleton.mp hl]
    exact not_saysYes_of_unreadable (by decide)
  refine ⟨hBacks, rfl, orderTree_text, ?_⟩
  rcases (asks_before_replacing ⟨"m.json", "out", false⟩ .standard orderTree [0xFF, 0x0A] rfl
    orderTree_rooted hBacks rfl).2 with ⟨failure, trace, hFailed⟩ | ⟨types, deeds, -, -, hConsented⟩
  · rw [hFailed]
    exact orderTree_text
  · exact (hConsented.silent hSilent).1 _ _ orderTree_text

/-- A path to the same directory by way of one that is not there yet. -/
def detourResult : Result (List RawLine) (Except Failure Summary) :=
  (run ⟨"m.json", "new/../out", false⟩ .standard).run.eval Terminal.confirm ⟨orderTree, linesOf []⟩

/-- The file is replaced, though nothing was asked and there is nothing to answer. -/
theorem replaces_unasked_past_new_directory :
    Settings.standard.conflictStrategy = Strategy.warnViaConsoleDialog.name ∧
    orderTree.textAt? ["Order.java", "out", "work"] = some "// keep me\n" ∧
    detourResult.world.tree.textAt? ["Order.java", "out", "work"] ≠ some "// keep me\n" ∧
    ∀ q c, .answered q c ∉ detourResult.trace := by
  have hBoth : detourResult.world.tree.textAt? ["Order.java", "out", "work"] ≠ some "// keep me\n" ∧
      detourResult.trace.all (fun | .answered _ _ => false | _ => true) = true := by
    decide +kernel
  refine ⟨rfl, orderTree_text, hBoth.1, ?_⟩
  intro q c hAnswered
  cases List.all_eq_true.mp hBoth.2 _ hAnswered

end BeanGen.Run
