import BeanGen.BindError
import BeanGen.Settings.Basic
import BeanGen.Text.Casing

/-!
# Checking settings

The check reports the first fault in this order: log level, empty suffixes, equal suffixes,
strategy, package.
-/

namespace BeanGen

inductive SettingsFault where
  | unknownLevel (level : String)
  | emptySuffix
  | sameSuffix (suffix : String)
  | blankStrategy
  | badPackage (package : String)
  deriving DecidableEq, Repr, Inhabited

def SettingsFault.toError : SettingsFault → BindError
  | .unknownLevel level => .invalidConfiguration ("unknown log level '" ++ level ++ "'")
  | .emptySuffix => .invalidConfiguration "descriptor suffixes cannot be empty"
  | .sameSuffix suffix =>
    .invalidConfiguration ("descriptor and JDO descriptor suffix are both '" ++ suffix ++ "'")
  | .blankStrategy => .unknownStrategy ""
  | .badPackage package => .invalidConfiguration ("'" ++ package ++ "' is not a valid package name")

namespace Settings

def logLevels : List String :=
  ["trace", "debug", "info", "warn", "error"]

/-- Whether a text is a package name: identifiers separated by points. -/
def isPackageName (package : String) : Bool :=
  (Text.segments (· == '.') package.toList).all Java.isIdentifier

def check (s : Settings) : Except SettingsFault Unit :=
  if !logLevels.contains (Text.asciiLower s.logLevel) then .error (.unknownLevel s.logLevel)
  else if s.descriptorSuffix.isEmpty || s.jdoDescriptorSuffix.isEmpty then .error .emptySuffix
  else if s.descriptorSuffix = s.jdoDescriptorSuffix then .error (.sameSuffix s.descriptorSuffix)
  else if Text.allBlank s.conflictStrategy then .error .blankStrategy
  else if !s.package.isEmpty && !isPackageName s.package then .error (.badPackage s.package)
  else .ok ()

/-- Checks the settings; a fault is an error of the run. -/
def validate (s : Settings) : Except BindError Unit :=
  s.check.mapError SettingsFault.toError

end Settings

end BeanGen
