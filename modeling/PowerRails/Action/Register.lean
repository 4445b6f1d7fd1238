import PowerRails.Bus
import PowerRails.Finding
import PowerRails.Register
import PowerRails.Sensor

/-! # Register actions

The actions that work on single registers of the active device: comparing, writing, capturing, sensing, and
logging a finding with captured bytes. Each is checked when it is made, so that an operand that does not fit
its register, or a transfer that no bus can carry, never reaches hardware. -/

namespace PowerRails

/-- A transfer of some bytes from a register, at most one block. -/
structure BlockRead where
  register : UInt8
  count : Nat
  count_pos : 0 < count
  count_le : count ≤ maxBlock
deriving DecidableEq

/-- The reason why `count` bytes are no transfer; the fault names the action that asked. -/
def invalidCount (action : String) (count : Nat) : Fault :=
  .invalidAction action
    (if count = 0 then "invalid byte count: less than 1" else s!"invalid byte count: greater than {maxBlock}")

/-- Reads `count` bytes from `register` on behalf of `action`. -/
def BlockRead.make (action : String) (register : UInt8) (count : Nat) : Except Fault BlockRead :=
  if h : 0 < count ∧ count ≤ maxBlock then .ok ⟨register, count, h.1, h.2⟩
  else .error (invalidCount action count)

/-- What a register value is compared with. -/
inductive Operand where
  | literal (value : Int)
  /-- The value read last under a sensor name. -/
  | sensor (name : String)
deriving DecidableEq, Repr

/-- An operand as the texts of actions show it. -/
def Operand.text : Operand → String
  | .literal value => toString value
  | .sensor name => "sensor " ++ name

/-- A literal operand must be a value of the format. -/
def Operand.Fits (format : RegisterFormat) : Operand → Prop
  | .literal value => format.contains value = true
  | .sensor _ => True

/-- Compares a register, under a mask, with an operand. -/
structure RegisterComparison where
  register : UInt8
  format : RegisterFormat
  mask : Nat
  comparison : Comparison
  operand : Operand
  mask_pos : 0 < mask
  mask_le : mask ≤ format.fullMask
  operand_fits : operand.Fits format

theorem RegisterFormat.fullMask_pos (f : RegisterFormat) : 0 < f.fullMask := by
  obtain ⟨w, s⟩ := f
  cases w <;> cases s <;> decide

namespace RegisterComparison

/-- A comparison of all bits. A literal that the format cannot hold is refused. -/
def make (register : UInt8) (format : RegisterFormat) (comparison : Comparison) :
    Operand → Except Fault RegisterComparison
  | .literal value =>
    if h : format.contains value = true then
      .ok ⟨register, format, format.fullMask, comparison, .literal value, format.fullMask_pos, Nat.le_refl _, h⟩
    else
      .error (.invalidAction "compare_register"
        s!"literal {value} is outside the {format.text} range {format.min}..={format.max}")
  | .sensor name =>
    .ok ⟨register, format, format.fullMask, comparison, .sensor name, format.fullMask_pos, Nat.le_refl _, trivial⟩

/-- The same comparison of the bits of `mask` only, which must be some bits of the register. -/
def withMask (c : RegisterComparison) (mask : Nat) : Except Fault RegisterComparison :=
  if h : 0 < mask ∧ mask ≤ c.format.fullMask then .ok { c with mask, mask_pos := h.1, mask_le := h.2 }
  else .error (.invalidAction "compare_register" s!"mask {Hex.upper 1 mask} does not fit a {c.format.text} register")

end RegisterComparison

/-- Writes bytes to a register; under a mask, the other bits keep what they hold. -/
structure RegisterWrite where
  register : UInt8
  data : Bytes
  mask : Option Bytes
  data_pos : 0 < data.length
  data_le : data.length ≤ maxBlock
  mask_length : ∀ m ∈ mask, m.length = data.length

namespace RegisterWrite

/-- A write of all bits. -/
def make (register : UInt8) (data : Bytes) : Except Fault RegisterWrite :=
  if h : 0 < data.length ∧ data.length ≤ maxBlock then .ok ⟨register, data, none, h.1, h.2, by simp⟩
  else .error (invalidCount "write_register" data.length)

/-- The same write of the bits of `mask` only, which must be as long as the data. -/
def withMask (w : RegisterWrite) (mask : Bytes) : Except Fault RegisterWrite :=
  if h : mask.length = w.data.length then .ok { w with mask := some mask, mask_length := by simpa using h }
  else
    .error (.invalidAction "write_register" s!"mask has {mask.length} bytes but data has {w.data.length}")

/-- The bytes to write over `current`: bits of the mask come from the data, the others from `current`. -/
def merge (current data mask : Bytes) : Bytes :=
  List.zipWith (fun old (new, m) => (old &&& ~~~m) ||| (new &&& m)) current (data.zip mask)

end RegisterWrite

/-- Reads a register and keeps its value under a name. -/
structure SensorRead where
  register : UInt8
  format : RegisterFormat
  kind : SensorKind
  name : String
  name_nonempty : name ≠ ""
deriving DecidableEq

/-- A sensor reading under a name that is not empty. -/
def SensorRead.make (register : UInt8) (format : RegisterFormat) (kind : SensorKind) (name : String) :
    Except Fault SensorRead :=
  if h : name = "" then .error (.invalidAction "read_sensor" "sensor name is empty")
  else .ok ⟨register, format, kind, name, h⟩

/-- Logs a finding about the active device and rail, with captured bytes if `capture` tells where from. -/
structure FindingLog where
  severity : Severity
  code : String
  message : String
  capture : Option BlockRead := none
deriving DecidableEq

/-- The same finding with `count` bytes of `register`. -/
def FindingLog.withCapture (l : FindingLog) (register : UInt8) (count : Nat) : Except Fault FindingLog := do
  pure { l with capture := some (← BlockRead.make "log_finding" register count) }

/-- Equality of comparisons is equality of what they ask. -/
instance : BEq RegisterComparison where
  beq a b := a.register == b.register && a.format == b.format && a.mask == b.mask && a.comparison == b.comparison
    && a.operand == b.operand

/-- Equality of writes is equality of what they store. -/
instance : BEq RegisterWrite where
  beq a b := a.register == b.register && a.data == b.data && a.mask == b.mask

end PowerRails
