import BeanGen.Conflict.Strategy
import BeanGen.Text.Basic

/-!
# Catalogs and registries of strategies

A catalog gives strategies, or reasons against them, by identifier. A registry is built from a list
of identifiers and gives strategies by the names they report. Identifiers that give no strategy, or
one without a name, are passed over, and so is every repetition of an identifier. Where two
strategies report one name, the later one stays.
-/

namespace BeanGen.Conflict

/-- Strategies, or reasons against them, by identifier. -/
structure Catalog where
  loaders : List (String × Except LoadFault Strategy)

namespace Catalog

def empty : Catalog :=
  ⟨[]⟩

def register (c : Catalog) (identifier : String) (loader : Except LoadFault Strategy) : Catalog :=
  ⟨(identifier, loader) :: c.loaders.filter (·.1 != identifier)⟩

def contains (c : Catalog) (identifier : String) : Bool :=
  c.loaders.any (·.1 == identifier)

def load (c : Catalog) (identifier : String) : Except LoadFault Strategy :=
  match c.loaders.lookup identifier with
  | some loader => loader
  | none => .error (.notFound identifier)

def builtin : Catalog :=
  (empty.register "schemabind_conflict::InformViaLogStrategy" (.ok .informViaLog)).register
    "schemabind_conflict::WarnViaConsoleDialogStrategy" (.ok .warnViaConsoleDialog)

end Catalog

def isSeparator (c : Char) : Bool :=
  c == ',' || Text.isBlank c

def splitIdentifiers (text : String) : List String :=
  (Text.runs isSeparator text.toList).map String.ofList

/-- Strategies by the names they report, in ascending order. -/
structure Registry where
  strategies : List (String × Strategy)

namespace Registry

def empty : Registry :=
  ⟨[]⟩

def strategy? (r : Registry) (name : String) : Option Strategy :=
  r.strategies.lookup name

def lookup (r : Registry) (name : String) : Except BindError Strategy :=
  match r.strategy? name with
  | some s => .ok s
  | none => .error (.unknownStrategy name)

def names (r : Registry) : List String :=
  r.strategies.map (·.1)

def size (r : Registry) : Nat :=
  r.strategies.length

def describe (r : Registry) : String :=
  "StrategyRegistry \x7b names: [" ++ String.intercalate ", " (r.names.map Text.quoted) ++ "] \x7d"

def insert (r : Registry) (s : Strategy) : Registry :=
  ⟨Text.insertEntry s.name s r.strategies⟩

/-- Takes up the strategy of an identifier, and reports if there is anything odd about it. -/
def takeUp (c : Catalog) (r : Registry) (identifier : String) : Registry × List Event :=
  match c.load identifier with
  | .error fault => (r, [.strategySkipped identifier fault])
  | .ok s =>
    if s.name.isEmpty then (r, [.strategyUnnamed identifier])
    else if (r.strategy? s.name).isSome then
      (r.insert s, [.strategyReplaced identifier s.name])
    else (r.insert s, [])

/-- Takes up identifiers in order, but none of those already `seen`. -/
def takeUpAll (c : Catalog) : List String → Registry → List String → Registry × List Event
  | _, r, [] => (r, [])
  | seen, r, identifier :: rest =>
    if seen.contains identifier then takeUpAll c seen r rest
    else
      let (r, events) := takeUp c r identifier
      let (r, later) := takeUpAll c (identifier :: seen) r rest
      (r, events ++ later)

def ofText (c : Catalog) (text : String) : Registry × List Event :=
  takeUpAll c [] empty (splitIdentifiers text)

/-- The registry of a list of identifiers; the list has to be given, though it may be empty. -/
def build (c : Catalog) : Option String → Except BindError (Registry × List Event)
  | none => .error (.missingConfiguration "conflict strategy list was not provided")
  | some text => .ok (ofText c text)

end Registry

end BeanGen.Conflict
