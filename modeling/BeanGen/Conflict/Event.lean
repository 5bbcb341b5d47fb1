import BeanGen.BindError

/-!
# Events of a run

What a run reports while it goes on. An event is a cause; its level, its text and its named values
are read off the cause.
-/

namespace BeanGen.Conflict

inductive Level where
  | debug
  | info
  | warn
  deriving DecidableEq, Repr, Inhabited

def Level.name : Level → String
  | .debug => "DEBUG"
  | .info => "INFO"
  | .warn => "WARN"

/-- Why an identifier gives no strategy. -/
inductive LoadFault where
  | notFound (identifier : String)
  | missingCapability (identifier : String)
  | notInstantiable (identifier : String)
  deriving DecidableEq, Repr, Inhabited

def LoadFault.message : LoadFault → String
  | .notFound identifier => "no strategy implementation named '" ++ identifier ++ "'"
  | .missingCapability identifier =>
    "'" ++ identifier ++ "' does not implement the conflict strategy capabilities"
  | .notInstantiable identifier => "'" ++ identifier ++ "' cannot be instantiated"

inductive Event where
  | strategySkipped (identifier : String) (fault : LoadFault)
  | strategyUnnamed (identifier : String)
  | strategyReplaced (identifier name : String)
  | strategyConsulted (className strategy : String)
  | nameClash (candidate taken : String)
  | nameClashUnasked (candidate taken : String)
  | stopRequested (className : String)
  | overwriting (file : String)
  | overwriteUnasked (file : String)
  | noAnswer
  | generationStopped (className : String)
  | typeGenerated (className : String) (classes : Nat)
  | runStarted (types : Nat) (strategy output : String)
  | typeAborted (typeName : String) (error : BindError)
  | fileKept (file : String)
  deriving DecidableEq, Repr, Inhabited

def clashMessage (candidate taken : String) : String :=
  "A class name generation conflict has occurred between '" ++ candidate ++
    "' and the already generated class '" ++ taken ++
    "'. Please use a binding file to solve this problem."

namespace Event

def level : Event → Level
  | strategySkipped .. => .warn
  | strategyUnnamed .. => .warn
  | strategyReplaced .. => .warn
  | strategyConsulted .. => .debug
  | nameClash .. => .warn
  | nameClashUnasked .. => .warn
  | stopRequested .. => .info
  | overwriting .. => .info
  | overwriteUnasked .. => .warn
  | noAnswer => .warn
  | generationStopped .. => .warn
  | typeGenerated .. => .info
  | runStarted .. => .info
  | typeAborted .. => .warn
  | fileKept .. => .info

def message : Event → String
  | strategySkipped .. => "skipping conflict strategy"
  | strategyUnnamed .. => "skipping conflict strategy without a name"
  | strategyReplaced .. => "strategy name registered twice, keeping the later one"
  | strategyConsulted .. => "class name already generated, consulting strategy"
  | nameClash candidate taken => clashMessage candidate taken
  | nameClashUnasked candidate taken =>
    clashMessage candidate taken ++ " (no console dialog to ask)"
  | stopRequested _ => "generation stopped on user request"
  | overwriting file => file ++ " already exists, but will be overwritten"
  | overwriteUnasked _ => "no console dialog to confirm overwrite, keeping existing file"
  | noAnswer => "no answer available, assuming 'n'"
  | generationStopped _ => "generation stopped by conflict strategy"
  | typeGenerated .. => "type generated"
  | runStarted .. => "generation started"
  | typeAborted _ error => error.message
  | fileKept _ => "existing file kept"

def values : Event → List (String × String)
  | strategySkipped identifier fault => [("identifier", identifier), ("error", fault.message)]
  | strategyUnnamed identifier => [("identifier", identifier)]
  | strategyReplaced identifier name => [("identifier", identifier), ("name", name)]
  | strategyConsulted className strategy => [("class_name", className), ("strategy", strategy)]
  | nameClash _ taken => [("class_name", taken)]
  | nameClashUnasked _ taken => [("class_name", taken)]
  | stopRequested className => [("class_name", className)]
  | overwriting file => [("filename", file)]
  | overwriteUnasked file => [("filename", file)]
  | noAnswer => []
  | generationStopped className => [("class_name", className)]
  | typeGenerated className classes =>
    [("class_name", className), ("constructs", toString classes)]
  | runStarted types strategy output =>
    [("types", toString types), ("strategy", strategy), ("output", output)]
  | typeAborted typeName _ => [("type_name", typeName)]
  | fileKept file => [("filename", file)]

end Event

end BeanGen.Conflict
