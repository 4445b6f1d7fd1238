import PowerRails.Environment

/-! # Access to hardware

All that actions do to hardware goes through `access`: the bus of the active device is opened if it is closed,
and then does what it is asked. A failure on the way becomes a fault that names the active device and rail and
the register. A bus does one thing at a time; asking it for more while it is taken is refused. -/

namespace PowerRails.Context

variable {σ α : Type}

/-- The fault of a failed access by the active device. -/
def accessFault (ctx : Context σ) (register : UInt8) (details : String) : Fault :=
  ⟨.busAccess ctx.scope.device ctx.scope.rail register details, []⟩

/-- The account of an access by the active device. -/
def accessed (ctx : Context σ) (presence : PresenceCache) (request : Request) (failure : Option BusError) : Activity :=
  .access ⟨ctx.scope, presence.get? ctx.scope.device ctx.cycle, ctx.detecting, request, failure⟩

/-- One step of the hardware, noted as an access. -/
def transfer (ctx : Context σ) (register : UInt8) (request : Request) (step : Transfer σ α) : Op σ α := fun s =>
  match step s.hardware with
  | (.ok answer, hardware) =>
    (.ok answer, { s with hardware, activity := s.activity ++ [ctx.accessed s.presence request none] })
  | (.error e, hardware) =>
    (.error (ctx.accessFault register e.text),
      { s with hardware, activity := s.activity ++ [ctx.accessed s.presence request (some e)] })

/-- Opens the bus of the active device unless it is open. A bus that is taken is refused. -/
def openBus (ctx : Context σ) (register : UInt8) : Op σ (Bus σ) := do
  let device ← Op.ofExcept ctx.device
  if device.id ∈ ctx.held then
    Op.fail (ctx.accessFault register "bus interface is already in use")
  else if device.bus.isOpen (← Op.state).hardware then
    pure device.bus
  else
    ctx.transfer register .connect device.bus.connect
    pure device.bus

/-- One access to the bus of the active device. -/
def access (ctx : Context σ) (register : UInt8) (request : Request) (step : Bus σ → Transfer σ α) : Op σ α := do
  let bus ← ctx.openBus register
  ctx.transfer register request (step bus)

/-- Does something while the bus of the active device is open and taken. -/
def holdBus (ctx : Context σ) (register : UInt8) (body : Context σ → Op σ α) : Op σ α := do
  let _ ← ctx.openBus register
  body (ctx.holding ctx.scope.device)

/-- Reads some bytes from a register of the active device. -/
def readBlock (ctx : Context σ) (register : UInt8) (count : Nat) : Op σ Bytes :=
  ctx.access register (.read register count) fun bus => bus.read register count

/-- Reads one byte from a register of the active device. -/
def readByte (ctx : Context σ) (register : UInt8) : Op σ UInt8 :=
  ctx.access register (.readByte register) fun bus => bus.readByte register

/-- Writes bytes to a register of the active device. -/
def writeBlock (ctx : Context σ) (register : UInt8) (data : Bytes) : Op σ Unit :=
  ctx.access register (.write register data) fun bus => bus.write register data

theorem access_of_error {ctx : Context σ} {fault : Fault} (h : ctx.device = .error fault) (register : UInt8)
    (request : Request) (step : Bus σ → Transfer σ α) (s : State σ) :
    ctx.access register request step s = (.error fault, s) := by
  simp [access, openBus, h]

/-- An access opens the bus first if it is closed. -/
theorem access_of_device {ctx : Context σ} {d : Device σ} (h : ctx.device = .ok d) (register : UInt8)
    (request : Request) (step : Bus σ → Transfer σ α) (s : State σ) :
    ctx.access register request step s =
      if d.id ∈ ctx.held then (.error (ctx.accessFault register "bus interface is already in use"), s)
      else if d.bus.isOpen s.hardware then ctx.transfer register request (step d.bus) s
      else (do
        ctx.transfer register .connect d.bus.connect
        ctx.transfer register request (step d.bus) : Op σ α) s := by
  simp only [access, openBus, h, Op.bind_apply, Op.ofExcept_apply]
  by_cases hheld : d.id ∈ ctx.held
  · simp [hheld]
  · by_cases hopen : d.bus.isOpen s.hardware = true
    · simp [hheld, hopen]
    · simp only [hheld, hopen, if_false, Op.bind_apply, Op.state_apply, Bool.false_eq_true]
      rcases ctx.transfer register .connect d.bus.connect s with ⟨_ | _, t⟩ <;> rfl

end PowerRails.Context
