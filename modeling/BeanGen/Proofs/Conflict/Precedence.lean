import BeanGen.Proofs.Conflict.Registry
import BeanGen.Proofs.Java.Signature

/-!
# Which of several strategies with one name is kept

Identifiers compete for a name if the strategies they load report it. Every mention of an identifier
after the first is passed over, so a registry keeps the competitor whose first mention comes last.
That is the one listed last unless it was overtaken: another one was first mentioned after it, and
then it was listed once more.
-/

namespace BeanGen.Conflict

namespace Registry

/-- The identifier loads a strategy that reports the name. -/
def reports (c : Catalog) (n identifier : String) : Bool :=
  match c.load identifier with
  | .ok s => s.name == n
  | .error _ => false

/-- The last of some identifiers that loads a strategy of a name. -/
def lastReporting? (c : Catalog) (n : String) (identifiers : List String) : Option String :=
  identifiers.reverse.find? (reports c n)

/-- The identifier listed last for a name is mentioned for the first time before another one that
reports the name is. -/
def Overtaken (c : Catalog) (n : String) (identifiers : List String) : Prop :=
  ∃ before identifier later, identifiers = before ++ identifier :: later ∧ identifier ∉ before ∧
    lastReporting? c n identifiers = some identifier ∧
    ∃ other ∈ later, reports c n other = true ∧ other ∉ before ∧ other ≠ identifier

/-! ## First mentions -/

theorem unseen_eq (seen identifiers : List String) :
    unseen seen identifiers = (identifiers.filter (!seen.contains ·)).eraseDups := by
  induction identifiers generalizing seen with
  | nil => rfl
  | cons identifier rest ih =>
    rw [unseen, List.filter_cons]
    cases hSeen : seen.contains identifier with
    | true => exact ih seen
    | false =>
      rw [if_neg Bool.false_ne_true, Bool.not_false, if_pos rfl, List.eraseDups_cons,
        List.filter_filter, ih]
      simp only [List.contains_cons, Bool.not_or]

/-- Of the first mentions of some identifiers, the last one of a kind is a given one exactly if no
other of that kind is mentioned first after it. -/
theorem find?_reverse_eraseDups_iff {p : String → Bool} {before later : List String}
    {identifier : String} (hNew : identifier ∉ before) (hKind : p identifier = true) :
    (before ++ identifier :: later).eraseDups.reverse.find? p = some identifier ↔
      ∀ other ∈ later, p other = true → other ∈ before ∨ other = identifier := by
  have hSplit : (before ++ identifier :: later).eraseDups =
      before.eraseDups ++
        identifier :: ((later.removeAll before).filter (!· == identifier)).eraseDups := by
    have hKept : before.contains identifier = false := by simpa using hNew
    rw [List.eraseDups_append, List.cons_removeAll, if_pos hKept, List.eraseDups_cons]
  rw [hSplit, List.reverse_append, List.reverse_cons, List.find?_append, List.find?_append]
  generalize hLater : ((later.removeAll before).filter (!· == identifier)).eraseDups = newer
  have hMem : ∀ other, other ∈ newer ↔ (other ∈ later ∧ other ∉ before) ∧ other ≠ identifier := by
    intro other
    rw [← hLater, List.mem_eraseDups, List.mem_filter, List.removeAll, List.mem_filter]
    simp
  cases hFound : newer.reverse.find? p with
  | some other =>
    have hOther : other ∈ newer := List.mem_reverse.mp (List.mem_of_find?_eq_some hFound)
    obtain ⟨⟨hListed, hUnseen⟩, hDistinct⟩ := (hMem other).mp hOther
    refine iff_of_false (by simpa using hDistinct) ?_
    intro h
    exact (h other hListed (List.find?_some hFound)).elim hUnseen hDistinct
  | none =>
    refine iff_of_true (by simp [hKind]) ?_
    intro other hListed hOther
    by_contra hNeither
    rw [not_or] at hNeither
    have hNewer := (hMem other).mpr ⟨⟨hListed, hNeither.1⟩, hNeither.2⟩
    exact List.find?_eq_none.mp hFound other (List.mem_reverse.mpr hNewer) hOther

theorem lastReporting?_eraseDups_eq_iff {c : Catalog} {n : String} {identifiers : List String} :
    lastReporting? c n identifiers.eraseDups = lastReporting? c n identifiers ↔
      ¬ Overtaken c n identifiers := by
  cases hLast : lastReporting? c n identifiers with
  | none =>
    have hNone := List.find?_eq_none.mp hLast
    refine iff_of_true (List.find?_eq_none.mpr ?_) ?_
    · intro identifier hMem
      rw [List.mem_reverse, List.mem_eraseDups] at hMem
      exact hNone identifier (List.mem_reverse.mpr hMem)
    · rintro ⟨before, identifier, later, -, -, hSome, -⟩
      cases hLast.symm.trans hSome
  | some identifier =>
    have hReports : reports c n identifier = true := List.find?_some hLast
    have hMem := List.mem_reverse.mp (List.mem_of_find?_eq_some hLast)
    obtain ⟨before, later, rfl, hNew⟩ := List.eq_append_cons_of_mem hMem
    rw [lastReporting?, find?_reverse_eraseDups_iff hNew hReports]
    constructor
    · rintro hNoOther ⟨before', identifier', later', hEq, hNew', hSome, other, hOther, hKind,
        hUnseen, hDistinct⟩
      cases hLast.symm.trans hSome
      -- the first mention of an identifier is at one place only
      obtain ⟨rfl, rfl⟩ := Java.append_cons_cancel hNew hNew' hEq
      exact (hNoOther other hOther hKind).elim hUnseen hDistinct
    · intro hFirst other hOther hKind
      by_contra hNeither
      rw [not_or] at hNeither
      exact hFirst ⟨before, identifier, later, rfl, hNew, hLast, other, hOther, hKind, hNeither.1,
        hNeither.2⟩

/-! ## The strategy that is kept -/

theorem findSome?_eq_bind_find? {α β : Type} (f : α → Option β) (xs : List α) :
    xs.findSome? f = (xs.find? fun x => (f x).isSome).bind f := by
  induction xs with
  | nil => rfl
  | cons x xs ih =>
    rw [List.findSome?_cons, List.find?_cons]
    cases hx : f x with
    | none => exact ih
    | some y => simp [hx]

theorem isSome_contribution? {c : Catalog} {n : String} (hNamed : n ≠ "") (identifier : String) :
    (contribution? c n identifier).isSome = reports c n identifier := by
  rw [Bool.eq_iff_iff, Option.isSome_iff_exists, reports]
  simp only [contribution?_eq_some_iff]
  cases c.load identifier with
  | error fault => simp
  | ok s => simp [hNamed]

theorem lookup_ofText_eq_ok_iff {c : Catalog} {text n : String} {s : Strategy} :
    (ofText c text).1.lookup n = .ok s ↔ n ≠ "" ∧ ∃ identifier,
      lastReporting? c n (splitIdentifiers text).eraseDups = some identifier ∧
      c.load identifier = .ok s := by
  have hFirst : unseen [] (splitIdentifiers text) = (splitIdentifiers text).eraseDups := by
    simp [unseen_eq]
  rw [lookup_eq_ok_iff]
  constructor
  · intro hStrategy
    obtain ⟨-, -, -, -, hNamed⟩ := exists_identifier_of_strategy? hStrategy
    rw [strategy?_ofText, hFirst, findSome?_eq_bind_find?, Option.bind_eq_some_iff] at hStrategy
    simp only [isSome_contribution? hNamed] at hStrategy
    obtain ⟨identifier, hLast, hContribution⟩ := hStrategy
    exact ⟨hNamed, identifier, hLast, (contribution?_eq_some_iff.mp hContribution).1⟩
  · rintro ⟨hNamed, identifier, hLast, hLoad⟩
    rw [strategy?_ofText, hFirst, findSome?_eq_bind_find?, Option.bind_eq_some_iff]
    simp only [isSome_contribution? hNamed]
    have hReports : reports c n identifier = true := List.find?_some hLast
    rw [reports, hLoad] at hReports
    exact ⟨identifier, hLast,
      contribution?_eq_some_iff.mpr ⟨hLoad, beq_iff_eq.mp hReports, hNamed⟩⟩

/-- Of the identifiers whose strategies report a name, a registry keeps the strategy of the one whose
first mention is the last, and this is the one listed last unless it is overtaken. -/
theorem keeps_last_first_mention (c : Catalog) (text : String) :
    ∃ r events, build c (some text) = .ok (r, events) ∧ ∀ n,
      (∀ s, r.lookup n = .ok s ↔ n ≠ "" ∧ ∃ identifier,
        lastReporting? c n (splitIdentifiers text).eraseDups = some identifier ∧
        c.load identifier = .ok s) ∧
      (lastReporting? c n (splitIdentifiers text).eraseDups =
          lastReporting? c n (splitIdentifiers text) ↔
        ¬ Overtaken c n (splitIdentifiers text)) :=
  ⟨_, _, rfl, fun _ => ⟨fun _ => lookup_ofText_eq_ok_iff, lastReporting?_eraseDups_eq_iff⟩⟩

end Registry

/-- A strategy of the same name as another, which lets no file be replaced. -/
def refusingTwin : Strategy :=
  { Strategy.informViaLog with onFileOverwrite := fun _ => return false }

def twinCatalog : Catalog :=
  ⟨[("a", .ok .informViaLog), ("b", .ok refusingTwin)]⟩

/-- An identifier that is listed last, for the second time, loses its name to the one between. -/
theorem listed_last_overtaken :
    ¬ ∀ (c : Catalog) (text n identifier : String) (s : Strategy) (r : Registry)
      (events : List Event), n ≠ "" → Registry.build c (some text) = .ok (r, events) →
      Registry.lastReporting? c n (splitIdentifiers text) = some identifier →
      c.load identifier = .ok s → r.lookup n = .ok s := by
  intro h
  have hKept := h twinCatalog "a b a" "informViaLog" "a" .informViaLog _ _ (by decide) rfl
    (by decide) rfl
  have hTwin : (Registry.ofText twinCatalog "a b a").1.lookup "informViaLog" = .ok refusingTwin := by
    rw [Registry.lookup_ofText_eq_ok_iff]
    exact ⟨by decide, "b", by decide, rfl⟩
  have hSame : refusingTwin = .informViaLog := Except.ok.inj (hTwin.symm.trans hKept)
  have hAnswers := congrArg
    (fun s : Strategy => ((s.onFileOverwrite "").answer (none : Option (Dialog Unit)) ()).value) hSame
  cases hAnswers

end BeanGen.Conflict
