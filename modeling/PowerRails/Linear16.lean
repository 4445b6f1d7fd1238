import PowerRails.Binary64.Decimal
import PowerRails.Fault

/-! # Output voltages as linear16 words

A regulator is told its output voltage as a sixteen-bit mantissa that counts powers of two. The power is part
of the command or is read from the device, as a five-bit exponent in two's complement beside a mode that must
be zero. Encoding scales the voltage exactly and rounds to the nearest mantissa, a half going away from zero. -/

namespace PowerRails.Linear16

/-- The register that tells how output voltages are encoded. -/
def modeRegister : UInt8 := 0x20

/-- The register that takes an output voltage. -/
def commandRegister : UInt8 := 0x21

/-- The name under which faults of output-voltage commands are reported. -/
def action : String := "pmbus_write_vout_command"

/-- The exponent in a mode byte: its low five bits, in two's complement. The upper three bits select another
encoding when they are not zero. -/
def exponentOfMode (mode : UInt8) : Except Fault Int :=
  let m := mode.toNat
  if m / 32 ≠ 0 then .error (.invalidAction action s!"VOUT_MODE {Hex.byte mode} is not linear format")
  else .ok (if m < 16 then m else (m : Int) - 32)

/-- `m · 2 ^ q` rounded to the nearest natural number, a half going up. -/
def roundScaled (m : Nat) (q : Int) : Nat :=
  let half := Nat.pow 2 (-q).toNat
  (2 * (m * Nat.pow 2 q.toNat) + half) / (2 * half)

/-- The mantissa of a voltage, if it has one: the voltage over `2 ^ exponent`, rounded, must lie between zero and
the greatest word. -/
def mantissa? (volts : Binary64) (exponent : Int) : Option UInt16 :=
  match volts.reading with
  | .finite negative m q =>
    let n := roundScaled m (q - exponent)
    if n < 65536 ∧ (negative = true → n = 0) then some (UInt16.ofNat n) else none
  | _ => none

/-- The mantissa of a voltage, or a fault that names both. -/
def encode (volts : Binary64) (exponent : Int) : Except Fault UInt16 :=
  match mantissa? volts exponent with
  | some word => .ok word
  | none => .error (.invalidAction action s!"{volts.plain} V is not representable with exponent {exponent}")

/-- The bytes of a word, the lower one first. -/
def wordBytes (word : UInt16) : Bytes := [UInt8.ofNat (word.toNat % 256), UInt8.ofNat (word.toNat / 256)]

end PowerRails.Linear16
