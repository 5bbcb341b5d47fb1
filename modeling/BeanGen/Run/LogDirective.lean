import BeanGen.Conflict.Event
import BeanGen.Text.Basic
import BeanGen.Text.Casing

/-!
# How much is logged

The environment decides first, then the wish to hear more, then the settings. A directive that names
no level counts as the standard one.
-/

namespace BeanGen.Run

open Conflict

def defaultLogLevel : String :=
  "info"

def logDirective (configured : String) (verbose : Bool) (environment : Option String) : String :=
  let wished := String.ofList (Text.trim (environment.getD "").toList)
  if !wished.isEmpty then wished
  else if verbose then "debug"
  else Text.asciiLower configured

def admittedLevels (directive : String) : List Level :=
  match Text.asciiLower directive with
  | "off" => []
  | "error" => []
  | "warn" => [.warn]
  | "debug" => [.warn, .info, .debug]
  | "trace" => [.warn, .info, .debug]
  | _ => [.warn, .info]

def logLine (e : Event) : String :=
  e.level.name ++ " " ++ e.message ++
    String.join (e.values.map fun (name, value) => " " ++ name ++ "=" ++ value) ++ "\n"

end BeanGen.Run
