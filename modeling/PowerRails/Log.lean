import PowerRails.Bus
import PowerRails.Report
import PowerRails.Text.Quoted

/-! # Log

What a run tells while it goes on. A log line has a level and named fields; the start of a run opens a span
that the lines of the run belong to. -/

namespace PowerRails

/-- How much attention a log line asks for. -/
inductive LogLevel where
  | debug
  | info
  | warn
  | error
deriving DecidableEq, Repr

def LogLevel.name : LogLevel → String
  | .debug => "DEBUG"
  | .info => "INFO"
  | .warn => "WARN"
  | .error => "ERROR"

/-- What is logged. -/
inductive LogEntry where
  | runStarted (kind : RunKind)
  | deviceSkipped (device : String)
  | deviceVisited (kind : RunKind) (device : String)
  | detectionFailed (device : String) (fault : Fault)
  | deviceFailed (chassis device : String) (fault : Fault) (captures : Captures)
  | finding (finding : Finding)
  | runComplete (devices errors findings : Nat) (status : RunStatus)
  | closingFailed (device : String) (error : BusError)
deriving DecidableEq, Repr

/-- The start of a span, or a line of some level. -/
inductive LogHead where
  | span (name : String)
  | line (level : LogLevel)
deriving DecidableEq, Repr

namespace LogEntry

/-- The level of the line about a finding. -/
def levelOf : Severity → LogLevel
  | .informational => .info
  | .notice => .info
  | .warning => .warn
  | .error => .error
  | .critical => .error

/-- The level of an entry, or the name of the span that it opens. -/
def head : LogEntry → LogHead
  | .runStarted _ => .span "regulators_run"
  | .deviceSkipped _ => .line .debug
  | .deviceVisited .. => .line .debug
  | .detectionFailed .. => .line .warn
  | .deviceFailed .. => .line .warn
  | .finding f => .line (levelOf f.severity)
  | .runComplete .. => .line .info
  | .closingFailed .. => .line .warn

/-- A table of texts in braces, every text quoted. -/
def quotedCaptures (c : Captures) : String :=
  "\x7b" ++ ", ".intercalate (c.listed.map fun e => Text.quoted e.1 ++ ": " ++ Text.quoted e.2) ++ "\x7d"

/-- The fields about a finding. Warnings leave out their severity, which their level tells, and lines below them
leave out captured bytes. -/
def findingFields (f : Finding) : List (String × String) :=
  let severity := ("severity", f.severity.name)
  let place := [("code", f.code), ("device", f.device), ("rail", Text.quotedOption f.rail)]
  let captured := ("captured", Text.quotedOption (f.captured.map Hex.bytes))
  let message := ("message", f.message)
  match levelOf f.severity with
  | .error => severity :: place ++ [captured, message]
  | .warn => place ++ [captured, message]
  | _ => severity :: place ++ [message]

/-- The fields of an entry by name. -/
def fields : LogEntry → List (String × String)
  | .runStarted .configure => [("kind", "Configure")]
  | .runStarted .monitor => [("kind", "Monitor")]
  | .deviceSkipped device => [("device", device), ("message", "device not present; skipping")]
  | .deviceVisited .configure device => [("device", device), ("message", "configuring device")]
  | .deviceVisited .monitor device => [("device", device), ("message", "monitoring device")]
  | .detectionFailed device fault =>
    [("device", device), ("error", fault.text),
      ("message", "presence detection failed; treating device as absent")]
  | .deviceFailed chassis device fault captures =>
    [("chassis", chassis), ("device", device), ("code", fault.code), ("error", fault.text),
      ("additional_data", quotedCaptures captures),
      ("message", "device failed; continuing with next device")]
  | .finding f => findingFields f
  | .runComplete devices errors findings status =>
    [("devices", toString devices), ("errors", toString errors), ("findings", toString findings),
      ("status", match status with | .inProgress => "InProgress" | .complete => "Complete"),
      ("message", "run complete")]
  | .closingFailed device error =>
    [("device", device), ("error", error.text), ("message", "unable to close device")]

end LogEntry

/-- The layouts in which a log can be written. -/
inductive LogLayout where
  | compact
  | json
deriving DecidableEq, Repr

/-- The layout for a setting: the word `json`, in letters of the basic alphabet and of any case, or else the
compact one. -/
def LogLayout.ofSetting : Option String → LogLayout
  | some s => if s.toList.map Char.toLower = ['j', 's', 'o', 'n'] then .json else .compact
  | none => .compact

def LogLayout.name : LogLayout → String
  | .compact => "compact"
  | .json => "json"

end PowerRails
