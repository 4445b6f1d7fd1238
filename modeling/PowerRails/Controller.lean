import PowerRails.FailureStreak
import PowerRails.Settings
import PowerRails.Visit

/-! # Controllers

A controller manages a plant: it has the hardware, and all that is carried from one run to the next. A run
visits every device of every chassis in order. A fault stops the device at which it surfaces, and no other: it
is recorded, the device is marked, and the run goes on. Those who registered are told at the end. -/

namespace PowerRails

/-- A plant under management, with its hardware and its history. -/
structure Controller (σ : Type) where
  plant : Plant σ
  hardware : σ
  settings : Settings := {}
  /-- The number of runs so far, which names the next cycle. -/
  cycles : Cycle := 0
  presence : PresenceCache := {}
  /-- The failure streaks of devices by identifier. -/
  streaks : Table String FailureStreak := {}
  lastReport : Option Report := none
  /-- Those who are told of findings, besides the log. -/
  sinks : List String := []
  /-- Those who are told of presence. -/
  publishers : List String := []
  /-- Who is told of rails and sensor values, if anybody is. -/
  sensorsService : Option String := none

/-- What a run has come to. -/
structure Progress (σ : Type) where
  hardware : σ
  presence : PresenceCache
  streaks : Table String FailureStreak
  report : Report
  activity : List Activity := []

namespace Controller

variable {σ : Type}

/-- A controller of a valid plant. -/
def make (plant : Plant σ) (hardware : σ) : Except Fault (Controller σ) := do
  plant.validate
  pure { plant, hardware }

/-- The failure streak of a device; one that is not known of has none. -/
def streak (ctl : Controller σ) (device : String) : FailureStreak := (ctl.streaks.get? device).getD {}

/-- The context in which a device is visited in a cycle, after earlier captures of the run. -/
def visitContext (ctl : Controller σ) (cycle : Cycle) (earlier : Captures) (device : String) : Context σ :=
  { plant := ctl.plant, cycle, maxRuleDepth := ctl.settings.maxRuleDepth, earlier,
    sensorsService := ctl.sensorsService, scope := ⟨device, none⟩ }

/-- How the fault of a device is to be reported, and the streaks after it. Faults while configuring are always
errors. -/
def escalate (ctl : Controller σ) (kind : RunKind) (device : String) (streaks : Table String FailureStreak) :
    Option Severity × Table String FailureStreak :=
  match kind with
  | .configure => (some .error, streaks)
  | .monitor =>
    let (escalation, streak) := ((streaks.get? device).getD {}).recordFailure ctl.settings.maxMonitorErrors
    (escalation.severity?, streaks.insert device streak)

/-- The streaks after a visit without a fault: monitoring a device that is there ends its streak. -/
def settle (kind : RunKind) (row : DeviceRow) (streaks : Table String FailureStreak) : Table String FailureStreak :=
  if kind = .monitor ∧ row.present = some true then streaks.erase row.device else streaks

/-- Adds what was recorded in a visit to the report. -/
def collect (report : Report) (s : State σ) : Report :=
  { report with
    findings := report.findings ++ s.findings,
    captures := report.captures.extend s.captures,
    readings := report.readings ++ s.readings }

/-- The finding that is made of a recorded fault. -/
def faultFinding (severity : Severity) (r : RecordedFault) : Finding :=
  { severity, code := r.fault.code, device := r.device, rail := r.rail, message := r.fault.text }

/-- Visits one device and accounts for the visit. -/
def visitPlace (ctl : Controller σ) (kind : RunKind) (cycle : Cycle) (p : Progress σ)
    (place : Chassis σ × Device σ) : Progress σ :=
  let (chassis, device) := place
  let ctx := ctl.visitContext cycle p.report.captures device.id
  let start : State σ := { hardware := p.hardware, presence := p.presence }
  let outcome := ctx.visit kind device { chassis := chassis.id, device := device.id } start
  let s := outcome.state
  let report := collect p.report s
  match outcome.fault with
  | none =>
    { hardware := s.hardware, presence := s.presence, streaks := settle kind outcome.row p.streaks,
      report := { report with rows := report.rows ++ [outcome.row] },
      activity := p.activity ++ s.activity }
  | some fault =>
    let (severity, streaks) := ctl.escalate kind device.id p.streaks
    let recorded := RecordedFault.make chassis.id device.id fault s.captures
    let entry := LogEntry.deviceFailed chassis.id device.id fault s.captures
    { hardware := s.hardware, presence := s.presence, streaks,
      report :=
        { report with
          rows := report.rows ++ [outcome.row.toward .errored],
          findings := report.findings ++ (severity.map (faultFinding · recorded)).toList,
          faults := report.faults ++ [recorded] },
      activity := p.activity ++ s.activity ++ [.log entry] }

/-- All that is told of the findings of a run: each one is logged and then goes to every sink. -/
def tellFindings (ctl : Controller σ) (findings : List Finding) : List Activity :=
  findings.flatMap fun f => .log (.finding f) :: ctl.sinks.map (.notice · (.finding f))

/-- All that is told of presence: what this cycle found out about each device goes to every publisher. -/
def tellPresence (ctl : Controller σ) (presence : PresenceCache) (cycle : Cycle) : List Activity :=
  ctl.plant.devices.flatMap fun d =>
    match presence.get? d.id cycle with
    | some present => ctl.publishers.map (.notice · (.presence d.id d.inventoryPath present))
    | none => []

/-- Visits all devices in order. -/
def visitAll (ctl : Controller σ) (kind : RunKind) : Progress σ :=
  let start : Progress σ :=
    { hardware := ctl.hardware, presence := ctl.presence, streaks := ctl.streaks,
      report := { kind, cycle := ctl.cycles } }
  ctl.plant.places.foldl (ctl.visitPlace kind ctl.cycles) start

/-- One top-level call: the controller after it, and all that happened. -/
def run (ctl : Controller σ) (kind : RunKind) : Controller σ × List Activity :=
  let p := ctl.visitAll kind
  let report := { p.report with finished := true }
  let completion := LogEntry.runComplete report.rows.length report.faults.length report.findings.length report.status
  ({ ctl with
      hardware := p.hardware, presence := p.presence, streaks := p.streaks, cycles := ctl.cycles + 1,
      lastReport := some report },
    .log (.runStarted kind) :: p.activity ++ ctl.tellFindings report.findings
      ++ ctl.tellPresence p.presence ctl.cycles ++ [.log completion])

def configure (ctl : Controller σ) : Controller σ × List Activity := ctl.run .configure

def monitor (ctl : Controller σ) : Controller σ × List Activity := ctl.run .monitor

/-- The chassis with an identifier; the first one counts. -/
def chassis? (ctl : Controller σ) (id : String) : Option (Chassis σ) := ctl.plant.chassis.find? (·.id == id)

/-- The rule with an identifier; the first one counts. -/
def rule? (ctl : Controller σ) (id : String) : Option Rule := ctl.plant.rules.find? (·.id == id)

/-- The device with an identifier, in the first chassis that has it. -/
def device? (ctl : Controller σ) (id : String) : Option (Device σ) := ctl.plant.chassis.findSome? (·.device? id)

/-- Whether a device was there when a run last found out. -/
def present? (ctl : Controller σ) (device : String) : Option Bool := ctl.presence.lastKnown? device

/-- The findings of the last run about a device. -/
def findingsFor (ctl : Controller σ) (device : String) : List Finding :=
  ctl.lastReport.elim [] (·.findingsFor device)

/-- The faults of a device in the last run. -/
def faultsFor (ctl : Controller σ) (device : String) : List RecordedFault :=
  ctl.lastReport.elim [] (·.faultsFor device)

/-- Forgets all failure streaks. -/
def clearStreaks (ctl : Controller σ) : Controller σ := { ctl with streaks := {} }

/-- Closes the bus of a device if it is open, and tells what is to be logged. -/
def closeDevice (hardware : σ) (d : Device σ) : σ × List Activity :=
  if d.bus.isOpen hardware then
    match d.bus.disconnect hardware with
    | (.ok _, hardware) => (hardware, [])
    | (.error e, hardware) => (hardware, [.log (.closingFailed d.id e)])
  else (hardware, [])

/-- Closes the bus of every device; one that cannot be closed stops no other. -/
def closeDevices (ctl : Controller σ) : Controller σ × List Activity :=
  let (hardware, activity) := ctl.plant.devices.foldl
    (fun (hardware, activity) d =>
      let (hardware, told) := closeDevice hardware d
      (hardware, activity ++ told))
    (ctl.hardware, [])
  ({ ctl with hardware }, activity)

end Controller
end PowerRails
