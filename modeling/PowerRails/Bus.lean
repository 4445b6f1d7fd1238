import PowerRails.Text.Hex

/-! # Buses

A device is reached through a bus: registers are read and written in blocks of a few bytes. Hardware is a
state `σ` of any kind, and a bus is what it does to that state, so whatever is proved of a bus in general
holds for every behaviour of the hardware. -/

namespace PowerRails

/-- The most bytes that one transfer may carry. -/
def maxBlock : Nat := 32

/-- Where a device sits: the name of its bus and its address there. -/
structure Endpoint where
  bus : String
  address : UInt16
deriving DecidableEq, Repr

/-- The ways in which a transfer fails. -/
inductive BusProblem where
  | notAcknowledged (register : UInt8)
  | timedOut (register : UInt8)
  | notOpen
  | invalidLength (count : Nat)
  /-- Anything else the transport complains about. -/
  | transport (details : String)
deriving DecidableEq, Repr

/-- A problem, and the endpoint that has it. -/
structure BusError where
  endpoint : Endpoint
  problem : BusProblem
deriving DecidableEq, Repr

namespace BusProblem

/-- The name of a problem. -/
def kind : BusProblem → String
  | .notAcknowledged _ => "Nack"
  | .timedOut _ => "Timeout"
  | .notOpen => "Closed"
  | .invalidLength _ => "InvalidLength"
  | .transport _ => "Transport"

/-- A problem as messages show it. -/
def text : BusProblem → String
  | .notAcknowledged register => s!"register {Hex.byte register} not acknowledged"
  | .timedOut register => s!"register {Hex.byte register} timed out"
  | .notOpen => "interface is not open"
  | .invalidLength count => s!"invalid transfer length {count} (expected 1..={maxBlock})"
  | .transport details => details

end BusProblem

/-- A problem with the endpoint that has it, as messages show them. -/
def BusError.text (e : BusError) : String :=
  s!"bus {e.endpoint.bus}, addr {Hex.upper 2 e.endpoint.address.toNat}: {e.problem.text}"

/-- A step of the hardware that answers with a value or fails. The state moves on in either case. -/
abbrev Transfer (σ α : Type) := σ → Except BusError α × σ

/-- A register-addressed interface to one device, over hardware in a state `σ`. -/
structure Bus (σ : Type) where
  endpoint : Endpoint
  isOpen : σ → Bool
  /-- Opens the interface; no harm is done if it is open. -/
  connect : Transfer σ Unit
  /-- Closes the interface; no harm is done if it is closed. -/
  disconnect : Transfer σ Unit
  read : UInt8 → Nat → Transfer σ Bytes
  write : UInt8 → Bytes → Transfer σ Unit

namespace Bus

variable {σ τ : Type}

/-- Reads one byte. An interface that answers with no bytes at all fails here. -/
def readByte (b : Bus σ) (register : UInt8) : Transfer σ UInt8 := fun s =>
  match b.read register 1 s with
  | (.ok (first :: _), s) => (.ok first, s)
  | (.ok [], s) => (.error ⟨b.endpoint, .transport s!"short read from register {Hex.byte register}"⟩, s)
  | (.error e, s) => (.error e, s)

/-- Writes one byte. -/
def writeByte (b : Bus σ) (register : UInt8) (value : UInt8) : Transfer σ Unit := b.write register [value]

/-- A bus whose state is one part of a larger state. -/
def within (b : Bus σ) (get : τ → σ) (set : τ → σ → τ) : Bus τ :=
  let lift {α : Type} (t : Transfer σ α) : Transfer τ α := fun s =>
    let (answer, part) := t (get s)
    (answer, set s part)
  { endpoint := b.endpoint, isOpen := fun s => b.isOpen (get s), connect := lift b.connect,
    disconnect := lift b.disconnect, read := fun register count => lift (b.read register count),
    write := fun register data => lift (b.write register data) }

end Bus
end PowerRails
