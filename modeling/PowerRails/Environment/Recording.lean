import PowerRails.Environment

/-! # Recording

What actions leave behind without changing their course: findings, captured bytes and sensor readings, each
attributed to the active device and rail. Captured bytes are kept under keys that are used once in a run. -/

namespace PowerRails

/-- The key of the `n`-th capture of one register: the first has the plain name, later ones a number after it. -/
def Captures.key (base : String) (n : Nat) : String := if n ≤ 1 then base else base ++ "_" ++ toString n

/-- The first key that is not taken. Among one key more than there are taken ones, one is free. -/
def Captures.freeKey (own earlier : Captures) (base : String) : String :=
  let numbers := (List.range (own.size + earlier.size + 1)).map (· + 1)
  let free (n : Nat) : Bool := !own.contains (Captures.key base n) && !earlier.contains (Captures.key base n)
  Captures.key base ((numbers.find? free).getD (own.size + earlier.size + 1))

namespace Context

variable {σ : Type}

/-- Records a finding. -/
def pushFinding (f : Finding) : Op σ Unit := Op.update fun s => { s with findings := s.findings ++ [f] }

/-- Keeps a finding about the active device and rail. -/
def addFinding (ctx : Context σ) (severity : Severity) (code : String) (captured : Option Bytes)
    (message : String) : Op σ Unit :=
  pushFinding { severity, code, device := ctx.scope.device, rail := ctx.scope.rail, captured, message }

/-- Keeps bytes of a register of the active device, and answers with their key. -/
def capture (ctx : Context σ) (register : UInt8) (bytes : Bytes) : Op σ String := fun s =>
  let key := s.captures.freeKey ctx.earlier s!"{ctx.scope.device}_register_{Hex.byte register}"
  (.ok key,
    { s with
      captures := s.captures.insert key (Hex.bytes bytes),
      activity := s.activity ++ [.captured ctx.scope.device register key bytes] })

/-- Tells the sensors service, if there is one. -/
def tellService (ctx : Context σ) (notice : Notice) : Op σ Unit :=
  match ctx.sensorsService with
  | some service => Op.note (.notice service notice)
  | none => pure ()

/-- Keeps a reading of the active device and rail, and passes its value on. -/
def recordReading (ctx : Context σ) (name : String) (kind : SensorKind) (value : Int) : Op σ Unit := do
  let reading : Reading := { device := ctx.scope.device, rail := ctx.scope.rail, name, kind, value }
  Op.update fun s => { s with readings := s.readings ++ [reading] }
  ctx.tellService (.value kind value)

/-- Announces that a rail of the active device is going to be monitored. Without a service nothing is looked up. -/
def startRail (ctx : Context σ) (rail : String) : Op σ Unit := do
  if ctx.sensorsService.isSome then
    let device ← Op.ofExcept ctx.device
    let chassis ← Op.ofExcept (ctx.plant.chassisOf device.id)
    ctx.tellService (.railStarted rail device.inventoryPath chassis.inventoryPath)

/-- Tells the sensors service that the active rail is done with. -/
def endRail (ctx : Context σ) (failed : Bool) : Op σ Unit := ctx.tellService (.railEnded failed)

end Context
end PowerRails
