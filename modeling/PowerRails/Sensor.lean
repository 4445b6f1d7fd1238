/-! # Sensors

A sensor reading is a named value that was read from a register of a device, or of one of its rails. -/

namespace PowerRails

/-- The quantity a sensor measures. -/
inductive SensorKind where
  | iout
  | ioutPeak
  | ioutValley
  | iin
  | temperature
  | temperaturePeak
  | vout
  | voutPeak
  | voutValley
deriving DecidableEq, Repr

namespace SensorKind

/-- All kinds of sensors. -/
def all : List SensorKind :=
  [.iout, .ioutPeak, .ioutValley, .iin, .temperature, .temperaturePeak, .vout, .voutPeak, .voutValley]

/-- The name of a kind in reports. -/
def name : SensorKind → String
  | .iout => "iout"
  | .ioutPeak => "iout_peak"
  | .ioutValley => "iout_valley"
  | .iin => "iin"
  | .temperature => "temperature"
  | .temperaturePeak => "temperature_peak"
  | .vout => "vout"
  | .voutPeak => "vout_peak"
  | .voutValley => "vout_valley"

def ofName? (s : String) : Option SensorKind := all.find? (·.name == s)

theorem ofName?_name (k : SensorKind) : ofName? k.name = some k := by cases k <;> decide +kernel

end SensorKind

/-- A value read from hardware, with the place where it was read. -/
structure Reading where
  device : String
  rail : Option String
  name : String
  kind : SensorKind
  value : Int
deriving DecidableEq, Repr

/-- The value read last under `name`. -/
def Reading.latest? (readings : List Reading) (name : String) : Option Int :=
  (readings.reverse.find? (·.name == name)).map (·.value)

end PowerRails
