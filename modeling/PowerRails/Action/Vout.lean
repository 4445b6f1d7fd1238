import PowerRails.Linear16

/-! # Output-voltage commands

The action that sets the output voltage of a device. The voltage may be left to the configuration that is
being applied, and the exponent to the device. -/

namespace PowerRails

/-- Sets an output voltage, and reads it back if asked to. -/
structure VoutCommand where
  volts : Option Binary64
  exponent : Option Int
  verify : Bool
  volts_valid : ∀ v ∈ volts, v.IsVoltage
  exponent_valid : ∀ e ∈ exponent, -16 ≤ e ∧ e ≤ 15

namespace VoutCommand

/-- A command is refused for a value that is no voltage, and then for an exponent beyond five bits. -/
def make (volts : Option Binary64) (exponent : Option Int) (verify : Bool) : Except Fault VoutCommand :=
  if hv : ∀ v ∈ volts, v.IsVoltage then
    if he : ∀ e ∈ exponent, -16 ≤ e ∧ e ≤ 15 then .ok ⟨volts, exponent, verify, hv, he⟩
    else .error (.invalidAction Linear16.action ("exponent " ++ exponent.elim "" toString ++ " is outside -16..=15"))
  else .error (.invalidAction Linear16.action ("invalid voltage " ++ volts.elim "" Binary64.plain))

/-- Equality of commands, with voltages compared as numbers. -/
def same (a b : VoutCommand) : Bool :=
  (match a.volts, b.volts with
    | some v, some w => v.sameNumber w
    | none, none => true
    | _, _ => false)
    && a.exponent == b.exponent && a.verify == b.verify

end VoutCommand
end PowerRails
