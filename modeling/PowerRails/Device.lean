import PowerRails.Action

/-! # Devices

What is known of the regulators in a system: devices behind their buses, the rails they feed, the chassis
that hold them, and the rules that their actions share. -/

namespace PowerRails

/-- A named procedure that actions call by its identifier. -/
structure Rule where
  id : String
  actions : Procedure

/-- A rule of at least one action. -/
def Rule.make (id : String) (actions : List Action) : Except Fault Rule := do
  pure ⟨id, ← Procedure.make "rule" actions⟩

/-- How a device or rail is set up, and the voltage it is set to if its actions do not say. -/
structure Configuration where
  volts : Option Binary64
  actions : Procedure

/-- A configuration of at least one action. -/
def Configuration.make (volts : Option Binary64) (actions : List Action) : Except Fault Configuration := do
  pure ⟨volts, ← Procedure.make "configuration" actions⟩

/-- The sensor monitoring of a device or a rail. -/
def Procedure.monitoring (actions : List Action) : Except Fault Procedure :=
  Procedure.make "sensor_monitoring" actions

/-- The presence detection of a device. -/
def Procedure.detection (actions : List Action) : Except Fault Procedure :=
  Procedure.make "presence_detection" actions

/-- One voltage output of a device. -/
structure Rail where
  id : String
  configuration : Option Configuration := none
  monitoring : Option Procedure := none

/-- A regulator, or a related part, on a bus over hardware in a state `σ`. -/
structure Device (σ : Type) where
  id : String
  isRegulator : Bool
  inventoryPath : String
  bus : Bus σ
  /-- Tells whether the device is there; a device without detection always is. -/
  detection : Option Procedure := none
  configuration : Option Configuration := none
  monitoring : Option Procedure := none
  rails : List Rail := []

/-- The rail of a device with the given identifier; the first one counts. -/
def Device.rail? {σ : Type} (d : Device σ) (id : String) : Option Rail := d.rails.find? (·.id == id)

/-- An enclosure and its devices, in the order in which they are visited. -/
structure Chassis (σ : Type) where
  id : String
  inventoryPath : String
  devices : List (Device σ)

/-- The device of a chassis with the given identifier; the first one counts. -/
def Chassis.device? {σ : Type} (c : Chassis σ) (id : String) : Option (Device σ) := c.devices.find? (·.id == id)

end PowerRails
