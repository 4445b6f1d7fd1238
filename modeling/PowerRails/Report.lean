import PowerRails.Fault
import PowerRails.Finding
import PowerRails.Presence
import PowerRails.Sensor

/-! # Reports

What a top-level call leaves behind: how far each device came, and everything that was found, read, captured
or went wrong on the way. -/

namespace PowerRails

/-- What a run does with the devices that are there. -/
inductive RunKind where
  | configure
  | monitor
deriving DecidableEq, Repr

/-- The name of a kind in reports. -/
def RunKind.name : RunKind → String
  | .configure => "configure"
  | .monitor => "monitor"

/-- How far a device came in one run. -/
inductive Stage where
  | notStarted
  | presenceResolved
  | configuring
  | monitoring
  | done
  | errored
deriving DecidableEq, Repr

namespace Stage

/-- All stages, in the order in which a device goes through them. -/
def all : List Stage := [.notStarted, .presenceResolved, .configuring, .monitoring, .done, .errored]

/-- The name of a stage in reports. -/
def name : Stage → String
  | .notStarted => "not_started"
  | .presenceResolved => "presence_resolved"
  | .configuring => "configuring"
  | .monitoring => "monitoring"
  | .done => "done"
  | .errored => "errored"

def ofName? (s : String) : Option Stage := all.find? (·.name == s)

/-- The steps that are allowed. A device starts by finding out whether it is there, may then be worked on, and ends
done or in error; a device that is not there is done at once. -/
def canAdvance : Stage → Stage → Bool
  | .notStarted, .presenceResolved => true
  | .notStarted, .errored => true
  | .presenceResolved, .configuring => true
  | .presenceResolved, .monitoring => true
  | .presenceResolved, .done => true
  | .presenceResolved, .errored => true
  | .configuring, .done => true
  | .configuring, .errored => true
  | .monitoring, .done => true
  | .monitoring, .errored => true
  | _, _ => false

/-- Whether nothing follows. -/
def isTerminal : Stage → Bool
  | .done => true
  | .errored => true
  | _ => false

theorem isTerminal_iff (s : Stage) : s.isTerminal = true ↔ ∀ t, s.canAdvance t = false := by
  constructor
  · intro h t
    cases s <;> simp_all [isTerminal, canAdvance]
  · intro h
    cases s
    · exact absurd (h .errored) (by decide)
    · exact absurd (h .done) (by decide)
    · exact absurd (h .done) (by decide)
    · exact absurd (h .done) (by decide)
    · rfl
    · rfl

end Stage

/-- One device in one run. -/
structure DeviceRow where
  chassis : String
  device : String
  /-- Whether the device is there, as soon as that is known. -/
  present : Option Bool := none
  stage : Stage := .notStarted
deriving DecidableEq, Repr

/-- Moves on to a stage, unless that step is not allowed; tells whether it was. -/
def DeviceRow.advance (row : DeviceRow) (next : Stage) : Bool × DeviceRow :=
  if row.stage.canAdvance next then (true, { row with stage := next }) else (false, row)

/-- Captured bytes as text, by key. -/
abbrev Captures := Table String String

/-- The captures in the order of their keys. -/
def Captures.listed (c : Captures) : List (String × String) := c.sorted fun a b => a ≤ b

/-- A fault caught at the device where it surfaced. -/
structure RecordedFault where
  chassis : String
  device : String
  rail : Option String
  fault : Fault
  /-- What the device had captured by then. -/
  captures : Captures := {}
deriving DecidableEq, Repr

/-- The record of a fault; its rail is the one the fault tells. -/
def RecordedFault.make (chassis device : String) (fault : Fault) (captures : Captures) : RecordedFault :=
  { chassis, device, rail := fault.rail?, fault, captures }

/-- Whether a run has come to its end. -/
inductive RunStatus where
  | inProgress
  | complete
deriving DecidableEq, Repr

def RunStatus.name : RunStatus → String
  | .inProgress => "in_progress"
  | .complete => "complete"

/-- Everything that one run produced. -/
structure Report where
  kind : RunKind
  cycle : Cycle
  finished : Bool := false
  rows : List DeviceRow := []
  findings : List Finding := []
  faults : List RecordedFault := []
  captures : Captures := {}
  readings : List Reading := []
deriving DecidableEq, Repr

namespace Report

/-- A run is complete once every device is at an end. -/
def status (r : Report) : RunStatus := if r.rows.all (·.stage.isTerminal) then .complete else .inProgress

/-- Whether the run is complete and nothing went wrong. -/
def succeeded (r : Report) : Bool := r.status == .complete && r.faults.isEmpty

/-- The row of a device; the first one counts. -/
def row? (r : Report) (device : String) : Option DeviceRow := r.rows.find? (·.device == device)

/-- The findings about a device. -/
def findingsFor (r : Report) (device : String) : List Finding := r.findings.filter (·.device == device)

/-- The faults that were recorded for a device. -/
def faultsFor (r : Report) (device : String) : List RecordedFault := r.faults.filter (·.device == device)

/-- Puts a row in place of the first row of a device. -/
def replaceRow (device : String) (row : DeviceRow) : List DeviceRow → List DeviceRow
  | [] => []
  | x :: xs => if x.device == device then row :: xs else x :: replaceRow device row xs

/-- Moves the first row of a device on to a stage, and tells whether that was allowed and where it is now. -/
def advance (r : Report) (device : String) (next : Stage) : Option (Bool × Stage) × Report :=
  match r.row? device with
  | none => (none, r)
  | some row =>
    let (moved, row') := row.advance next
    (some (moved, row'.stage),
      { r with rows := replaceRow device row' r.rows })

end Report
end PowerRails
