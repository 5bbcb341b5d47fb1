import BeanGen.Conflict.Registry
import BeanGen.Descriptor.Relational
import BeanGen.Descriptor.Xml
import BeanGen.Generation.BoundClass

/-!
# Generators

A generator turns bound types into classes, one type after another. It remembers every bound class
it has produced. A type whose qualified name is taken goes to the conflict strategy before anything
is built for it, and a type that fails leaves no trace.
-/

namespace BeanGen.Generation

open Conflict Java

/-- The type with the package of the settings in its own name and that of its parent. -/
def qualifiedType (s : Settings) (t : BoundType) : BoundType :=
  { t with name := s.qualify t.name, parent := t.parent.map s.qualify }

def relationalClasses (s : Settings) (t : BoundType) : Except ModelFault (List ClassDecl) :=
  if s.generateJdoDescriptors then
    (Descriptor.Relational.describe s (Descriptor.Relational.nameFor s t.name) t).map ([·])
  else .ok []

def xmlClasses (s : Settings) (t : BoundType) : List ClassDecl :=
  if s.generateDescriptors then [Descriptor.Xml.describe s (Descriptor.Xml.nameFor s t.name) t]
  else []

def classesOf (s : Settings) (t : BoundType) : Except BindError (ClassDecl × List ClassDecl) := do
  let bound ← buildClass s t
  let relational ← (relationalClasses s t).mapError ModelFault.toError
  return (bound, xmlClasses s t ++ relational)

/-- What a generator works with, the bound classes so far by their names, and the state of its run.
-/
structure Generator where
  settings : Settings
  strategy : Strategy
  emitted : List (String × ClassDecl)
  state : RunState

namespace Generator

def ofStrategy (s : Settings) (strategy : Strategy) : Generator :=
  ⟨s, strategy, [], .initial⟩

def ofRegistry (s : Settings) (r : Registry) : Except BindError Generator :=
  (r.lookup s.conflictStrategy).map (ofStrategy s)

def emitted? (g : Generator) (name : String) : Option ClassDecl :=
  g.emitted.lookup name

def describe (g : Generator) : String :=
  "SourceGenerator \x7b strategy: " ++ Text.quoted g.strategy.name ++ ", emitted: " ++
    toString g.emitted.length ++ ", state: " ++ g.state.describe ++ " \x7d"

def abortion (g : Generator) (t : BoundType) : BindError :=
  .generationAborted t.name ("strategy '" ++ g.strategy.name ++ "' requested a stop")

/-- Has the strategy settle a clash of names, if there is one, and gives the state to go on with. -/
def settle (g : Generator) (t : BoundType) : Inquiry (Except BindError RunState) :=
  match g.emitted? t.name with
  | none => return .ok g.state
  | some taken => do
    Inquiry.report (.strategyConsulted t.name g.strategy.name)
    let state ← g.strategy.onNameClash g.state t taken
    if state.isStopped then
      Inquiry.report (.generationStopped t.name)
      return .error (g.abortion t)
    else return .ok state

/-- Remembers the bound class of a type, and that its classes have been produced. -/
def record (g : Generator) (t : BoundType) (bound : ClassDecl) (classes : List ClassDecl) :
    Generator :=
  { g with
    state := g.state.markAll (classes.map (·.name))
    emitted := Text.insertEntry t.name bound g.emitted }

def produce (g : Generator) (t : BoundType) :
    Inquiry (Generator × Except BindError (List ClassDecl)) :=
  match classesOf g.settings t with
  | .error e => return (g, .error e)
  | .ok (bound, descriptors) => do
    let classes := bound :: descriptors
    Inquiry.report (.typeGenerated t.name classes.length)
    return (g.record t bound classes, .ok classes)

def generate (g : Generator) (t : BoundType) :
    Inquiry (Generator × Except BindError (List ClassDecl)) :=
  let t := qualifiedType g.settings t
  match t.validate with
  | .error e => return (g, .error e)
  | .ok () => do
    match ← g.settle t with
    | .error e => return (g, .error e)
    | .ok state => produce { g with state := state } t

end Generator

end BeanGen.Generation
