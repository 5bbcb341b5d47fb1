/-!
# Errors of a run

One constructor per cause that a caller can tell apart. Each has a fixed number, and a text that
starts with the kind of the error.
-/

namespace BeanGen

/-- Why generation, or the reading of its inputs, fails. -/
inductive BindError where
  | unknownStrategy (name : String)
  | missingConfiguration (what : String)
  | invalidConfiguration (reason : String)
  | notACollection (field : String)
  | invalidModel (reason : String)
  | serialization (reason : String)
  | generationAborted (typeName reason : String)
  | internal (reason : String)
  deriving DecidableEq, Repr, Inhabited

namespace BindError

def message : BindError → String
  | .unknownStrategy name => "unknown strategy: '" ++ name ++ "'"
  | .missingConfiguration what => "missing configuration: " ++ what
  | .invalidConfiguration reason => "invalid configuration: " ++ reason
  | .notACollection field => "field '" ++ field ++ "' is not a collection"
  | .invalidModel reason => "invalid type model: " ++ reason
  | .serialization reason => "serialization error: " ++ reason
  | .generationAborted typeName reason => "generation of '" ++ typeName ++ "' aborted: " ++ reason
  | .internal reason => "internal error: " ++ reason

def code : BindError → Nat
  | .unknownStrategy _ => 1
  | .missingConfiguration _ => 2
  | .invalidConfiguration _ => 3
  | .notACollection _ => 4
  | .invalidModel _ => 5
  | .serialization _ => 6
  | .generationAborted _ _ => 7
  | .internal _ => 8

def concernsConfiguration : BindError → Bool
  | .unknownStrategy _ => true
  | .missingConfiguration _ => true
  | .invalidConfiguration _ => true
  | _ => false

end BindError

end BeanGen
