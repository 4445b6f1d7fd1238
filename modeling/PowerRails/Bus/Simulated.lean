import PowerRails.Bus
import PowerRails.Table

/-! # Simulated buses

A register file that stands in for hardware. It keeps the bytes last stored under each register, can be told
to fail, and logs every operation that was attempted, failed ones included. Several interfaces may share one
register file; a `Bench` holds register files under names. -/

namespace PowerRails

/-- What a simulated bus was asked to do. -/
inductive BusOperation where
  | opened
  | closed
  | read (register : UInt8) (count : Nat)
  | wrote (register : UInt8) (data : Bytes)
deriving DecidableEq, Repr

/-- A failure that is injected into a simulated bus. -/
inductive BusFault where
  | nack
  | timeout
deriving DecidableEq, Repr

/-- The problem that an injected failure shows as. -/
def BusFault.problem (register : UInt8) : BusFault → BusProblem
  | .nack => .notAcknowledged register
  | .timeout => .timedOut register

/-- Hardware that is made up of registers alone. -/
structure RegisterFile where
  isOpen : Bool := false
  registers : Table UInt8 Bytes := {}
  /-- Registers whose reads and writes fail. -/
  faults : Table UInt8 BusFault := {}
  /-- A failure of every read and write. -/
  faultOfAll : Option BusFault := none
  /-- Everything that was attempted, in order. -/
  log : List BusOperation := []
deriving DecidableEq, Repr

namespace RegisterFile

instance : Inhabited RegisterFile := ⟨{}⟩

/-- The contents of `bytes` as a transfer of `count` bytes sees them: cut off, or filled up with zeros. -/
def sized (count : Nat) (bytes : Bytes) : Bytes := bytes.take count ++ List.replicate (count - bytes.length) 0

/-- Stores bytes, as a test bench does before a run. -/
def setRegister (f : RegisterFile) (register : UInt8) (bytes : Bytes) : RegisterFile :=
  { f with registers := f.registers.insert register bytes }

/-- The bytes stored under a register, if there ever were any. -/
def register? (f : RegisterFile) (register : UInt8) : Option Bytes := f.registers.get? register

/-- Makes the reads and writes of a register fail from now on. -/
def failRegister (f : RegisterFile) (register : UInt8) (fault : BusFault) : RegisterFile :=
  { f with faults := f.faults.insert register fault }

/-- Makes all reads and writes fail from now on. -/
def failAll (f : RegisterFile) (fault : BusFault) : RegisterFile := { f with faultOfAll := some fault }

/-- Heals all injected failures. -/
def clearFaults (f : RegisterFile) : RegisterFile := { f with faults := {}, faultOfAll := none }

/-- Forgets what was attempted. -/
def clearLog (f : RegisterFile) : RegisterFile := { f with log := [] }

/-- The writes that were attempted. -/
def writes (f : RegisterFile) : List BusOperation :=
  f.log.filter fun
    | .wrote .. => true
    | _ => false

/-- How often a register was read. -/
def readCount (f : RegisterFile) (register : UInt8) : Nat :=
  f.log.countP fun
    | .read r _ => r == register
    | _ => false

/-- How often any register was read. -/
def totalReads (f : RegisterFile) : Nat :=
  f.log.countP fun
    | .read .. => true
    | _ => false

/-- One more attempted operation. -/
def logged (f : RegisterFile) (op : BusOperation) : RegisterFile := { f with log := f.log ++ [op] }

/-- The reason to refuse a transfer: the bus is closed, the length is out of bounds, or a failure was injected.
The first of these that applies counts, and a failure of everything comes before one of a register. -/
def refusal? (f : RegisterFile) (register : UInt8) (count : Nat) : Option BusProblem :=
  if !f.isOpen then some .notOpen
  else if count = 0 ∨ maxBlock < count then some (.invalidLength count)
  else (f.faultOfAll.or (f.faults.get? register)).map (·.problem register)

/-- The bus over a register file. An attempt is logged whether or not it succeeds. -/
def bus (endpoint : Endpoint) : Bus RegisterFile where
  endpoint := endpoint
  isOpen f := f.isOpen
  connect f := (.ok (), { f.logged .opened with isOpen := true })
  disconnect f := (.ok (), { f.logged .closed with isOpen := false })
  read register count f :=
    let f := f.logged (.read register count)
    match f.refusal? register count with
    | some problem => (.error ⟨endpoint, problem⟩, f)
    | none => (.ok (sized count ((f.register? register).getD [])), f)
  write register data f :=
    let f := f.logged (.wrote register data)
    match f.refusal? register data.length with
    | some problem => (.error ⟨endpoint, problem⟩, f)
    | none => (.ok (), f.setRegister register data)

theorem length_sized (count : Nat) (bytes : Bytes) : (sized count bytes).length = count := by
  simp only [sized, List.length_append, List.length_take, List.length_replicate]
  omega

end RegisterFile

/-- Register files under names. -/
abbrev Bench := Table String RegisterFile

namespace Bench

/-- The register file called `name`; one that nobody set up is closed and empty. -/
def file (b : Bench) (name : String) : RegisterFile := (b.get? name).getD {}

/-- The interface at `endpoint` to the register file called `name`. -/
def bus (name : String) (endpoint : Endpoint) : Bus Bench :=
  (RegisterFile.bus endpoint).within (·.file name) (·.insert name)

end Bench
end PowerRails
