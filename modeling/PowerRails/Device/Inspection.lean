import PowerRails.Device
import PowerRails.Inspection

/-! # Inspection of devices

The listing of a device: what it is, the bus it sits on, and its rails with all their actions. The device's own
procedures are withheld. -/

namespace PowerRails

/-- A severity by the name of its case. -/
def Severity.inspection : Severity → Inspection
  | .informational => .atom "Informational"
  | .notice => .atom "Notice"
  | .warning => .atom "Warning"
  | .error => .atom "Error"
  | .critical => .atom "Critical"

/-- A kind of sensor by the name of its case. -/
def SensorKind.inspection : SensorKind → Inspection
  | .iout => .atom "Iout"
  | .ioutPeak => .atom "IoutPeak"
  | .ioutValley => .atom "IoutValley"
  | .iin => .atom "Iin"
  | .temperature => .atom "Temperature"
  | .temperaturePeak => .atom "TemperaturePeak"
  | .vout => .atom "Vout"
  | .voutPeak => .atom "VoutPeak"
  | .voutValley => .atom "VoutValley"

/-- A comparison by the name of its case. -/
def Comparison.inspection : Comparison → Inspection
  | .equal => .atom "Equal"
  | .notEqual => .atom "NotEqual"
  | .less => .atom "Less"
  | .lessOrEqual => .atom "LessOrEqual"
  | .greater => .atom "Greater"
  | .greaterOrEqual => .atom "GreaterOrEqual"

def RegisterFormat.inspection (f : RegisterFormat) : Inspection :=
  .full "RegisterFormat" [("bits", .ofInt f.bits), ("signed", .ofBool f.signed)]

def Operand.inspection : Operand → Inspection
  | .literal value => .group "Literal" [.ofInt value]
  | .sensor name => .group "Sensor" [.ofText name]

def RegisterComparison.inspection (c : RegisterComparison) : Inspection :=
  .full "CompareRegister"
    [("register", .ofRegister c.register), ("format", c.format.inspection), ("mask", .ofInt c.mask),
      ("op", c.comparison.inspection), ("operand", c.operand.inspection)]

def RegisterWrite.inspection (w : RegisterWrite) : Inspection :=
  .full "WriteRegister"
    [("register", .ofRegister w.register), ("data", .ofBytes w.data), ("mask", .ofOption .ofBytes w.mask)]

def BlockRead.inspection (b : BlockRead) : Inspection :=
  .full "CaptureBytes" [("register", .ofRegister b.register), ("count", .ofInt b.count)]

def SensorRead.inspection (r : SensorRead) : Inspection :=
  .full "ReadSensor"
    [("register", .ofRegister r.register), ("format", r.format.inspection), ("sensor_type", r.kind.inspection),
      ("name", .ofText r.name)]

/-- The parts of a logged finding; what is captured is a pair. -/
def FindingLog.inspection (l : FindingLog) : Inspection :=
  .full "LogFinding"
    [("severity", l.severity.inspection), ("code", .ofText l.code), ("message", .ofText l.message),
      ("capture", .ofOption (fun b => .group "" [.ofRegister b.register, .ofInt b.count]) l.capture)]

def VoutCommand.inspection (c : VoutCommand) : Inspection :=
  .full "WriteVoutCommand"
    [("volts", .ofOption .ofFloat c.volts), ("exponent", .ofOption .ofInt c.exponent), ("verify", .ofBool c.verify)]

namespace Action

mutual

/-- An action with all that it is made of. -/
def inspection : Action → Inspection
  | .allOf as => .group "And" [sequenceInspection as]
  | .anyOf as => .group "Or" [sequenceInspection as]
  | .negation a => .group "Not" [inspection a]
  | .branch condition as alternative =>
    .group "If"
      [.full "IfAction"
        [("condition", inspection condition), ("then", sequenceInspection as),
          ("otherwise", alternativeInspection alternative)]]
  | .runRule rule => .group "RunRule" [.ofText rule]
  | .inDevice device rail as =>
    .group "SetDevice"
      [.full "SetDeviceAction"
        [("device_id", .ofText device), ("rail_id", .ofOption .ofText rail), ("actions", sequenceInspection as)]]
  | .inRail rail as =>
    .group "SetRail" [.full "SetRailAction" [("rail_id", .ofText rail), ("actions", sequenceInspection as)]]
  | .comparePresence device expected =>
    .full "ComparePresence" [("device_id", .ofText device), ("expected", .ofBool expected)]
  | .compareRegister c => .group "CompareRegister" [c.inspection]
  | .writeRegister w => .group "WriteRegister" [w.inspection]
  | .capture b => .group "CaptureBytes" [b.inspection]
  | .readSensor r => .group "ReadSensor" [r.inspection]
  | .logFinding l => .group "LogFinding" [l.inspection]
  | .setVout c => .group "WriteVoutCommand" [c.inspection]
  termination_by structural a => a

def sequenceInspection : Sequence Action → Inspection
  | ⟨a, as⟩ => .full "ActionList" [("actions", .list (inspection a :: listInspection as))]
  termination_by structural as => as

/-- The actions after the first one. -/
def listInspection : List Action → List Inspection
  | [] => []
  | a :: as => inspection a :: listInspection as
  termination_by structural as => as

/-- The other branch of a condition, if there is one. -/
def alternativeInspection : Option (Sequence Action) → Inspection
  | none => .atom "None"
  | some as => .group "Some" [sequenceInspection as]
  termination_by structural as => as

end

end Action

def Configuration.inspection (c : Configuration) : Inspection :=
  .full "Configuration" [("volts", .ofOption .ofFloat c.volts), ("actions", Action.sequenceInspection c.actions)]

/-- A rail with its configuration and its monitoring. -/
def Rail.inspection (r : Rail) : Inspection :=
  let monitoring (p : Procedure) : Inspection :=
    .full "SensorMonitoring" [("actions", Action.sequenceInspection p)]
  .full "Rail"
    [("id", .ofText r.id), ("configuration", .ofOption Configuration.inspection r.configuration),
      ("monitoring", .ofOption monitoring r.monitoring)]

/-- A device and its rails; a bus that is taken at the moment shows only that it is. -/
def Device.inspection {σ : Type} (d : Device σ) (inUse : Bool) : Inspection :=
  let endpoint := d.bus.endpoint
  let bus := if inUse then "<in use>" else endpoint.bus ++ "@" ++ Hex.lower 2 endpoint.address.toNat
  .record "Device"
    [("id", .ofText d.id), ("is_regulator", .ofBool d.isRegulator), ("inventory_path", .ofText d.inventoryPath),
      ("bus", .ofText bus), ("rails", .list (d.rails.map Rail.inspection))] true

end PowerRails
