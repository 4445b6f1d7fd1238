/-! # Binary floating-point numbers

Voltages come in as binary64 numbers. They are kept as bit patterns, so that every question asked of them
(sign, range, rounding) is answered in exact integer arithmetic, and two patterns are the same value only if
they are the same bits. -/

namespace PowerRails

/-- A binary64 number: one sign bit, eleven exponent bits and fifty-two fraction bits. -/
structure Binary64 where
  bits : UInt64
deriving DecidableEq, Repr

namespace Binary64

/-- What a bit pattern denotes. `finite negative m q` is `m · 2 ^ q` with the given sign; the sign is kept
for zero too. -/
inductive Reading where
  | nan
  | infinite (negative : Bool)
  | finite (negative : Bool) (significand : Nat) (exponent : Int)
deriving DecidableEq, Repr

/-- Whether the sign bit is set. -/
def negative (x : Binary64) : Bool := x.bits.toNat / 0x8000000000000000 == 1

/-- The leading bit of a significand, above its fifty-two fraction bits. -/
def leadingBit : Nat := 0x10000000000000

/-- The eleven exponent bits. -/
def exponentField (x : Binary64) : Nat := x.bits.toNat / leadingBit % 2048

/-- The fifty-two fraction bits. -/
def fraction (x : Binary64) : Nat := x.bits.toNat % leadingBit

/-- The value of a bit pattern. An exponent field of all ones marks the values that are not finite, one of
all zeros the numbers without an implicit leading bit. -/
def reading (x : Binary64) : Reading :=
  if x.exponentField = 2047 then
    if x.fraction = 0 then .infinite x.negative else .nan
  else if x.exponentField = 0 then .finite x.negative x.fraction (-1074)
  else .finite x.negative (leadingBit + x.fraction) (x.exponentField - 1075)

/-- The sign bit in its place. -/
def signBit (negative : Bool) : UInt64 := if negative then 0x8000000000000000 else 0

/-- Zero with a sign. -/
def zero (negative : Bool) : Binary64 := ⟨signBit negative⟩

/-- The infinite value with a sign. -/
def infinity (negative : Bool) : Binary64 := ⟨signBit negative + 0x7FF0000000000000⟩

/-- The value that is no number. -/
def undefined : Binary64 := ⟨0x7FF8000000000000⟩

/-- Equality of numbers: the two zeros are equal, and nothing equals an undefined value. -/
def sameNumber (x y : Binary64) : Bool :=
  match x.reading, y.reading with
  | .nan, _ | _, .nan => false
  | .finite _ 0 _, .finite _ 0 _ => true
  | _, _ => x == y

/-- A voltage that can be asked for: finite, and not below zero. Negative zero is zero. -/
def IsVoltage (x : Binary64) : Prop :=
  match x.reading with
  | .finite false _ _ => True
  | .finite true m _ => m = 0
  | _ => False

instance (x : Binary64) : Decidable x.IsVoltage := by
  unfold IsVoltage
  split <;> infer_instance

end Binary64
end PowerRails
