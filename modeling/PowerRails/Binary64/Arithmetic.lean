import PowerRails.Binary64.Nearest

/-! # Binary floating-point arithmetic

A product is the number nearest to the exact product, so it may be infinite where the factors are not, and near zero it
may have lost digits. Rounding to an integer, comparing and converting to a word are exact. -/

namespace PowerRails.Binary64

/-- The number nearest to `m · 2 ^ q`, with a sign. -/
def nearestScaled (negative : Bool) (m : Nat) (q : Int) : Binary64 :=
  if m = 0 then zero negative
  else ⟨signBit negative + UInt64.ofNat (magnitudeBits (m * Nat.pow 2 q.toNat) (Nat.pow 2 (-q).toNat))⟩

/-- The number nearest to `2 ^ k`. -/
def powerOfTwo (k : Int) : Binary64 := nearestScaled false 1 k

/-- The product. An infinite value times zero is undefined. -/
def times (x y : Binary64) : Binary64 :=
  match x.reading, y.reading with
  | .finite s m p, .finite t n q => nearestScaled (s != t) (m * n) (p + q)
  | .infinite s, .infinite t => infinity (s != t)
  | .infinite s, .finite t m _ => if m = 0 then undefined else infinity (s != t)
  | .finite s m _, .infinite t => if m = 0 then undefined else infinity (s != t)
  | _, _ => undefined

/-- `num / den` rounded to the nearest natural number, a half going up. -/
def roundHalfUp (num den : Nat) : Nat := if 2 * (num % den) < den then num / den else num / den + 1

/-- The nearest integer, a half going away from zero. It has the sign of the number, also if it is zero. -/
def integral (x : Binary64) : Binary64 :=
  match x.reading with
  | .finite s m q => nearestScaled s (roundHalfUp (m * Nat.pow 2 q.toNat) (Nat.pow 2 (-q).toNat)) 0
  | _ => x

/-- A natural number with a sign. -/
def withSign (negative : Bool) (m : Nat) : Int := if negative then -m else m

/-- Comparison of numbers: the two zeros are equal, and an undefined value is not comparable. -/
def atMost (x y : Binary64) : Bool :=
  match x.reading, y.reading with
  | .nan, _ | _, .nan => false
  | .infinite true, _ | _, .infinite false => true
  | .infinite false, _ | _, .infinite true => false
  | .finite s m p, .finite t n q => withSign s m * Nat.pow 2 (p - q).toNat ≤ withSign t n * Nat.pow 2 (q - p).toNat

/-- The integer part as a word; what lies beyond the words becomes the nearest of them. -/
def toWord (x : Binary64) : UInt16 :=
  match x.reading with
  | .finite false m q => UInt16.ofNat (min (m * Nat.pow 2 q.toNat / Nat.pow 2 (-q).toNat) 65535)
  | .infinite false => 65535
  | _ => 0

end PowerRails.Binary64
