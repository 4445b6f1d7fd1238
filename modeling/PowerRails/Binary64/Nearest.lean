import PowerRails.Binary64.Decimal

/-! # Binary floating-point numbers from decimals

A decimal is read as the nearest number; halfway between two numbers the one with an even significand is taken.
Decimals too large for any number are read as infinite. -/

namespace PowerRails.Binary64

/-- `num / den` rounded to the nearest natural number, a half going to the even one. -/
def roundHalfEven (num den : Nat) : Nat :=
  let down := num / den
  let twice := 2 * (num % den)
  if twice < den ∨ twice = den ∧ down % 2 = 0 then down else down + 1

/-- `num / (den * 2 ^ q)` as a fraction. -/
def scaled (num den : Nat) (q : Int) : Nat × Nat := (num * Nat.pow 2 (-q).toNat, den * Nat.pow 2 q.toNat)

/-- The power of two that a significand of the number nearest to `num / den` counts: the significand has
fifty-three bits, unless the power would be less than the least one. -/
def unitExponent (num den : Nat) : Int :=
  let q : Int := (num.log2 : Int) - den.log2 - 52
  let (n, d) := scaled num den q
  max (if n < leadingBit * d then q - 1 else q) (-1074)

/-- The bits of the number nearest to `num / den`, which is positive. A significand that is rounded up to one bit
more counts into the exponent bits, as it should. -/
def magnitudeBits (num den : Nat) : Nat :=
  let q := unitExponent num den
  let (n, d) := scaled num den q
  min ((q + 1074).toNat * leadingBit + roundHalfEven n d) (2047 * leadingBit)

/-- The bits of the number nearest to a decimal without a sign. Decimals with more than 309 digits before the point
are too large, and those that begin more than 323 places after it too small, whatever their digits. -/
def decimalBits (d : Decimal) : Nat :=
  let places : Int := (Nat.toDigits 10 d.digits).length + d.exponent
  if d.digits = 0 ∨ places < -323 then 0
  else if 309 < places then 2047 * leadingBit
  else magnitudeBits (d.digits * Nat.pow 10 d.exponent.toNat) (Nat.pow 10 (-d.exponent).toNat)

/-- The number nearest to a decimal with a sign. -/
def nearest (negative : Bool) (d : Decimal) : Binary64 := ⟨signBit negative + UInt64.ofNat (decimalBits d)⟩

end PowerRails.Binary64
