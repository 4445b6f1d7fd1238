/-! # Settings

The limits under which a system runs. -/

namespace PowerRails

/-- The limits that can be set. -/
structure Settings where
  maxRuleDepth : Nat := 30
  /-- The failure of a streak that is reported as an error. -/
  maxMonitorErrors : Nat := 6
deriving DecidableEq, Repr

namespace Settings

/-- The fields of the settings. -/
inductive Field where
  | maxRuleDepth
  | maxMonitorErrors
deriving DecidableEq, Repr

/-- The name of a limit in files and messages. -/
def Field.name : Field → String
  | .maxRuleDepth => "max_rule_depth"
  | .maxMonitorErrors => "max_monitor_error_count"

/-- The variable of the surroundings that overrides a limit. -/
def Field.overrideName : Field → String
  | .maxRuleDepth => "REGULATORS_MAX_RULE_DEPTH"
  | .maxMonitorErrors => "REGULATORS_MAX_MONITOR_ERRORS"

/-- The message about a limit that is too low. -/
def Field.tooLow (f : Field) : String := s!"invalid config: {f.name} must be at least 1"

/-- Both limits must be at least one; the first that is not is reported. -/
def validate (s : Settings) : Except Field Unit :=
  if s.maxRuleDepth = 0 then .error .maxRuleDepth
  else if s.maxMonitorErrors = 0 then .error .maxMonitorErrors
  else .ok ()

/-- The greatest number a limit can be set to. -/
def maxLimit : Nat := 0xFFFFFFFFFFFFFFFF

/-- Adds decimal digits to a number, as long as they are digits and the number fits. -/
def readDigits : Nat → List Char → Option Nat
  | n, [] => if n ≤ maxLimit then some n else none
  | n, c :: cs => if c.isDigit then readDigits (10 * n + (c.toNat - 48)) cs else none

/-- Reads a limit: decimal digits, with or without a plus sign, and nothing else. -/
def readLimit : List Char → Option Nat
  | [] => none
  | ['+'] => none
  | '+' :: cs => readDigits 0 cs
  | cs => readDigits 0 cs

/-- The settings with the overrides that the surroundings give. Values that cannot be read are passed over. -/
def override (s : Settings) (lookup : String → Option String) : Settings :=
  let limit (f : Field) : Option Nat := lookup f.overrideName >>= fun v => readLimit v.toList
  { maxRuleDepth := (limit .maxRuleDepth).getD s.maxRuleDepth,
    maxMonitorErrors := (limit .maxMonitorErrors).getD s.maxMonitorErrors }

/-- The greatest number that can be written in a settings file. -/
def maxWritten : Nat := 0x7FFFFFFFFFFFFFFF

/-- The settings as text of a settings file, if both limits can be written. -/
def fileText? (s : Settings) : Option String :=
  if s.maxRuleDepth ≤ maxWritten ∧ s.maxMonitorErrors ≤ maxWritten then
    some (s!"{Field.maxRuleDepth.name} = {s.maxRuleDepth}\n"
      ++ s!"{Field.maxMonitorErrors.name} = {s.maxMonitorErrors}\n")
  else none

end Settings
end PowerRails
