import BeanGen.Conflict.Registry
import BeanGen.Proofs.Text.Ascending
import BeanGen.Proofs.Text.Runs
import Mathlib.Data.List.Sort

/-!
# What a registry holds

An identifier contributes a strategy if it loads one that has a name. A registry is a fold over the
first mentions of the identifiers, and it answers for a name with the last contribution of that name
among them. Hence its names depend only on which of the contributing identifiers are listed.
-/

namespace BeanGen.Conflict

/-- The strategy that an identifier contributes: it loads, and it has a name. -/
def Catalog.offered? (c : Catalog) (identifier : String) : Option Strategy :=
  match c.load identifier with
  | .ok s => if s.name.isEmpty then none else some s
  | .error _ => none

theorem Catalog.offered?_eq_some_iff {c : Catalog} {identifier : String} {s : Strategy} :
    c.offered? identifier = some s ↔ c.load identifier = .ok s ∧ s.name ≠ "" := by
  rw [offered?]
  cases c.load identifier with
  | error fault => simp
  | ok loaded =>
    simp only [String.isEmpty_iff, Except.ok.injEq]
    split
    · rename_i hName
      constructor
      · intro hNone
        cases hNone
      · rintro ⟨rfl, hNamed⟩
        exact absurd hName hNamed
    · rename_i hNamed
      rw [Option.some.injEq]
      exact ⟨fun h => ⟨h, h ▸ hNamed⟩, And.left⟩

namespace Registry

/-! ## Names and strategies of one registry -/

theorem mem_names_iff {r : Registry} {n : String} :
    n ∈ r.names ↔ (r.strategy? n).isSome = true := by
  obtain ⟨strategies⟩ := r
  rw [names, strategy?]
  induction strategies with
  | nil => simp
  | cons entry strategies ih =>
    obtain ⟨k, s⟩ := entry
    rw [Text.lookup_cons_entry, List.map_cons, List.mem_cons, ih]
    by_cases hKey : n = k <;> simp [hKey]

theorem lookup_eq_ok_iff {r : Registry} {n : String} {s : Strategy} :
    r.lookup n = .ok s ↔ r.strategy? n = some s := by
  rw [lookup]
  cases r.strategy? n <;> simp

theorem lookup_of_not_mem {r : Registry} {n : String} (h : n ∉ r.names) :
    r.lookup n = .error (.unknownStrategy n) := by
  rw [mem_names_iff, Option.isSome_iff_ne_none, not_not] at h
  rw [lookup, h]

@[simp] theorem strategy?_empty (n : String) : empty.strategy? n = none :=
  rfl

@[simp] theorem strategy?_insert (r : Registry) (s : Strategy) (n : String) :
    (r.insert s).strategy? n = if n = s.name then some s else r.strategy? n :=
  Text.lookup_insertEntry s.name s r.strategies n

@[simp] theorem names_insert (r : Registry) (s : Strategy) :
    (r.insert s).names = Text.insertAscending s.name r.names :=
  Text.keys_insertEntry s.name s r.strategies

/-! ## Identifiers taken up one after another -/

def keep (c : Catalog) (r : Registry) (identifier : String) : Registry :=
  (c.offered? identifier).elim r r.insert

theorem takeUp_fst (c : Catalog) (r : Registry) (identifier : String) :
    (takeUp c r identifier).1 = keep c r identifier := by
  rw [takeUp, keep, Catalog.offered?]
  cases c.load identifier with
  | error fault => rfl
  | ok s =>
    simp only
    split
    · rfl
    · split <;> rfl

/-- The first mention of each identifier, less those already seen. -/
def unseen : List String → List String → List String
  | _, [] => []
  | seen, identifier :: rest =>
    if seen.contains identifier then unseen seen rest
    else identifier :: unseen (identifier :: seen) rest

theorem mem_unseen {seen identifiers : List String} {identifier : String} :
    identifier ∈ unseen seen identifiers ↔ identifier ∈ identifiers ∧ identifier ∉ seen := by
  induction identifiers generalizing seen with
  | nil => simp [unseen]
  | cons first rest ih =>
    rw [unseen]
    by_cases hSeen : first ∈ seen
    · rw [if_pos (List.contains_iff_mem.mpr hSeen), ih, List.mem_cons]
      constructor
      · rintro ⟨hRest, hNew⟩
        exact ⟨.inr hRest, hNew⟩
      · rintro ⟨rfl | hRest, hNew⟩
        · exact absurd hSeen hNew
        · exact ⟨hRest, hNew⟩
    · rw [if_neg (by simpa using hSeen)]
      simp only [List.mem_cons, ih, not_or]
      constructor
      · rintro (rfl | ⟨hRest, -, hNew⟩)
        · exact ⟨.inl rfl, hSeen⟩
        · exact ⟨.inr hRest, hNew⟩
      · rintro ⟨hEither, hNew⟩
        by_cases hEq : identifier = first
        · exact .inl hEq
        · exact .inr ⟨hEither.resolve_left hEq, hEq, hNew⟩

theorem takeUpAll_fst (c : Catalog) (seen : List String) (r : Registry)
    (identifiers : List String) :
    (takeUpAll c seen r identifiers).1 = (unseen seen identifiers).foldl (keep c) r := by
  induction identifiers generalizing seen r with
  | nil => rfl
  | cons identifier rest ih =>
    rw [takeUpAll, unseen]
    split
    · exact ih seen r
    · exact (ih (identifier :: seen) _).trans (by rw [takeUp_fst, List.foldl_cons])

/-- The strategy that an identifier contributes under a name. -/
def contribution? (c : Catalog) (n identifier : String) : Option Strategy :=
  (c.offered? identifier).filter (·.name == n)

theorem contribution?_eq_some_iff {c : Catalog} {n identifier : String} {s : Strategy} :
    contribution? c n identifier = some s ↔
      c.load identifier = .ok s ∧ s.name = n ∧ n ≠ "" := by
  rw [contribution?, Option.filter_eq_some_iff, Catalog.offered?_eq_some_iff, beq_iff_eq]
  constructor
  · rintro ⟨⟨hLoad, hNamed⟩, rfl⟩
    exact ⟨hLoad, rfl, hNamed⟩
  · rintro ⟨hLoad, rfl, hNamed⟩
    exact ⟨⟨hLoad, hNamed⟩, rfl⟩

theorem strategy?_keep (c : Catalog) (r : Registry) (identifier n : String) :
    (keep c r identifier).strategy? n = (contribution? c n identifier).or (r.strategy? n) := by
  rw [keep, contribution?]
  cases c.offered? identifier with
  | none => rfl
  | some s => by_cases hName : n = s.name <;> simp [hName, Option.filter, Ne.symm]

/-- A fold answers for a name with the last contribution of that name. -/
theorem strategy?_foldl_keep (c : Catalog) (r : Registry) (identifiers : List String)
    (n : String) :
    (identifiers.foldl (keep c) r).strategy? n =
      (identifiers.reverse.findSome? (contribution? c n)).or (r.strategy? n) := by
  induction identifiers generalizing r with
  | nil => rfl
  | cons identifier rest ih =>
    rw [List.foldl_cons, ih, strategy?_keep, List.reverse_cons, List.findSome?_append,
      Option.or_assoc]
    simp

theorem names_foldl_keep_pairwise (c : Catalog) {r : Registry} (h : r.names.Pairwise (· < ·))
    (identifiers : List String) :
    (identifiers.foldl (keep c) r).names.Pairwise (· < ·) := by
  induction identifiers generalizing r with
  | nil => exact h
  | cons identifier rest ih =>
    refine ih ?_
    rw [keep]
    cases c.offered? identifier with
    | none => exact h
    | some s =>
      rw [Option.elim_some, names_insert]
      exact Text.insertAscending_pairwise h

/-! ## A registry from a text -/

theorem ofText_eq (c : Catalog) (text : String) :
    (ofText c text).1 = (unseen [] (splitIdentifiers text)).foldl (keep c) empty :=
  takeUpAll_fst c [] empty (splitIdentifiers text)

theorem strategy?_ofText (c : Catalog) (text n : String) :
    (ofText c text).1.strategy? n =
      (unseen [] (splitIdentifiers text)).reverse.findSome? (contribution? c n) := by
  rw [ofText_eq, strategy?_foldl_keep, strategy?_empty, Option.or_none]

theorem names_ofText_pairwise (c : Catalog) (text : String) :
    (ofText c text).1.names.Pairwise (· < ·) := by
  rw [ofText_eq]
  exact names_foldl_keep_pairwise c List.Pairwise.nil _

theorem exists_identifier_of_strategy? {c : Catalog} {text n : String} {s : Strategy}
    (h : (ofText c text).1.strategy? n = some s) :
    ∃ identifier ∈ splitIdentifiers text, c.load identifier = .ok s ∧ s.name = n ∧ n ≠ "" := by
  rw [strategy?_ofText] at h
  obtain ⟨identifier, hMem, hContribution⟩ := List.exists_of_findSome?_eq_some h
  rw [List.mem_reverse, mem_unseen] at hMem
  exact ⟨identifier, hMem.1, contribution?_eq_some_iff.mp hContribution⟩

theorem mem_names_ofText_iff {c : Catalog} {text n : String} :
    n ∈ (ofText c text).1.names ↔
      n ≠ "" ∧
        ∃ identifier ∈ splitIdentifiers text, ∃ s, c.load identifier = .ok s ∧ s.name = n := by
  rw [mem_names_iff]
  constructor
  · intro hSome
    obtain ⟨s, hStrategy⟩ := Option.isSome_iff_exists.mp hSome
    obtain ⟨identifier, hMem, hLoad, hName, hNamed⟩ := exists_identifier_of_strategy? hStrategy
    exact ⟨hNamed, identifier, hMem, s, hLoad, hName⟩
  · rintro ⟨hNamed, identifier, hMem, s, hLoad, hName⟩
    rw [strategy?_ofText, List.findSome?_isSome_iff]
    refine ⟨identifier, ?_, ?_⟩
    · rw [List.mem_reverse, mem_unseen]
      exact ⟨hMem, List.not_mem_nil⟩
    · rw [contribution?_eq_some_iff.mpr ⟨hLoad, hName, hNamed⟩]
      rfl

theorem names_ofText_eq {c : Catalog} {text other : String}
    (h : ∀ identifier s, c.load identifier = .ok s → s.name ≠ "" →
      (identifier ∈ splitIdentifiers other ↔ identifier ∈ splitIdentifiers text)) :
    (ofText c other).1.names = (ofText c text).1.names := by
  refine (names_ofText_pairwise c other).eq_of_mem_iff (names_ofText_pairwise c text) ?_
  intro n
  rw [mem_names_ofText_iff, mem_names_ofText_iff]
  refine and_congr_right fun hNamed => ?_
  constructor
  · rintro ⟨identifier, hMem, s, hLoad, rfl⟩
    exact ⟨identifier, (h identifier s hLoad hNamed).mp hMem, s, hLoad, rfl⟩
  · rintro ⟨identifier, hMem, s, hLoad, rfl⟩
    exact ⟨identifier, (h identifier s hLoad hNamed).mpr hMem, s, hLoad, rfl⟩

theorem splitIdentifiers_of_holds {text : String} {tokens : List String}
    (h : Text.Holds isSeparator (tokens.map String.toList) text.toList) :
    splitIdentifiers text = tokens := by
  rw [splitIdentifiers, h.runs_eq, List.map_map]
  simp [Function.comp_def]

/-- A registry can be built from any text. Its names are those that the listed identifiers
contribute, ascending, and it answers for these names and no others. The names of two texts agree as
soon as the texts list the same contributing identifiers, in whatever order, however often and with
whatever gaps and other identifiers between them. -/
theorem names_are_contributed (c : Catalog) (text : String) :
    ∃ r events, build c (some text) = .ok (r, events) ∧
      r.names.Pairwise (· < ·) ∧
      (∀ n, n ∈ r.names ↔ n ≠ "" ∧
        ∃ identifier ∈ splitIdentifiers text, ∃ s, c.load identifier = .ok s ∧ s.name = n) ∧
      (∀ n ∈ r.names, ∃ s, r.lookup n = .ok s ∧ s.name = n ∧
        ∃ identifier ∈ splitIdentifiers text, c.load identifier = .ok s) ∧
      (∀ n, n ∉ r.names → r.lookup n = .error (.unknownStrategy n)) ∧
      r.size = r.names.length ∧
      ∀ (other : String) (tokens : List String),
        Text.Holds isSeparator (tokens.map String.toList) other.toList →
        (∀ identifier s, c.load identifier = .ok s → s.name ≠ "" →
          (identifier ∈ tokens ↔ identifier ∈ splitIdentifiers text)) →
        ∃ r' events', build c (some other) = .ok (r', events') ∧ r'.names = r.names := by
  refine ⟨_, _, rfl, names_ofText_pairwise c text, fun _ => mem_names_ofText_iff, ?_,
    fun _ => lookup_of_not_mem, (List.length_map _).symm, ?_⟩
  · intro n hMem
    obtain ⟨s, hStrategy⟩ := Option.isSome_iff_exists.mp (mem_names_iff.mp hMem)
    obtain ⟨identifier, hListed, hLoad, hName, -⟩ := exists_identifier_of_strategy? hStrategy
    exact ⟨s, lookup_eq_ok_iff.mpr hStrategy, hName, identifier, hListed, hLoad⟩
  · intro other tokens hHolds hSame
    rw [← splitIdentifiers_of_holds hHolds] at hSame
    exact ⟨_, _, rfl, names_ofText_eq hSame⟩

end Registry

theorem Catalog.load_builtin {identifier : String} {s : Strategy}
    (h : builtin.load identifier = .ok s) :
    (identifier = "schemabind_conflict::InformViaLogStrategy" ∧ s = .informViaLog) ∨
      (identifier = "schemabind_conflict::WarnViaConsoleDialogStrategy" ∧
        s = .warnViaConsoleDialog) := by
  have hLoaders : builtin.loaders =
      [("schemabind_conflict::WarnViaConsoleDialogStrategy", .ok .warnViaConsoleDialog),
        ("schemabind_conflict::InformViaLogStrategy", .ok .informViaLog)] := by
    rfl
  rw [load, hLoaders, Text.lookup_cons_entry, Text.lookup_cons_entry] at h
  by_cases hWarn : identifier = "schemabind_conflict::WarnViaConsoleDialogStrategy"
  · rw [if_pos hWarn] at h
    cases h
    exact .inr ⟨hWarn, rfl⟩
  · by_cases hInform : identifier = "schemabind_conflict::InformViaLogStrategy"
    · rw [if_neg hWarn, if_pos hInform] at h
      cases h
      exact .inl ⟨hInform, rfl⟩
    · rw [if_neg hWarn, if_neg hInform] at h
      cases h

/-- Both built-in strategies under short identifiers, and an identifier that cannot be loaded. -/
def shortCatalog : Catalog :=
  ⟨[("a", .ok .informViaLog), ("b", .ok .warnViaConsoleDialog),
    ("c", .error (.notInstantiable "c"))]⟩

/-- Other separators, another order, one identifier twice, and one that gives nothing. -/
theorem names_are_contributed_reordered :
    ∃ r events r' events', Registry.build shortCatalog (some "a,b") = .ok (r, events) ∧
      Registry.build shortCatalog (some " b,\tc a\nb") = .ok (r', events') ∧
      r.names = ["informViaLog", "warnViaConsoleDialog"] ∧ r'.names = r.names := by
  obtain ⟨r, events, hBuild, -, -, -, -, -, hOther⟩ :=
    Registry.names_are_contributed shortCatalog "a,b"
  have hTokens : splitIdentifiers "a,b" = ["a", "b"] := by decide
  have hUnloaded : shortCatalog.load "c" = .error (.notInstantiable "c") := rfl
  obtain ⟨r', events', hBuild', hNames⟩ := hOther " b,\tc a\nb" ["b", "c", "a", "b"]
    (Text.runs_eq_iff.mp (by decide)) (by
      intro identifier s hLoad _
      have hOffered : identifier ≠ "c" := by
        rintro rfl
        rw [hUnloaded] at hLoad
        cases hLoad
      simp only [hTokens, List.mem_cons, List.not_mem_nil, hOffered, or_false, false_or]
      tauto)
  have hBoth : r.names = ["informViaLog", "warnViaConsoleDialog"] := by
    cases hBuild
    decide
  exact ⟨r, events, r', events', hBuild, hBuild', hBoth, hNames⟩

end BeanGen.Conflict
