import PowerRails.Binary64

/-! # Decimal text of binary floating-point numbers

A number is written with the fewest decimal digits that read back as the same number, and with the nearest
of those; a tie goes away from zero. `shortest` finds the digits. How they are laid out is a matter of the
two formats: `plain` never uses an exponent, `scientific` does so for very large and very small numbers. -/

namespace PowerRails.Binary64

/-- The decimal number `digits · 10 ^ exponent`. -/
structure Decimal where
  digits : Nat
  exponent : Int
deriving DecidableEq, Repr

/-- The real numbers that read as `m · 2 ^ q` lie between `low` and `high`, all three over the common
denominator `den`. The ends belong to them when `m` is even. Below a power of two the neighbour is only half
as far away. -/
structure Interval where
  low : Nat
  value : Nat
  high : Nat
  den : Nat
  closed : Bool

/-- The interval of the reals that round to `m · 2 ^ q`. -/
def interval (m : Nat) (q : Int) : Interval :=
  let scale := Nat.pow 2 (q - 2).toNat
  let below := if m = leadingBit then 4 * m - 1 else 4 * m - 2
  { low := below * scale, value := 4 * m * scale, high := (4 * m + 2) * scale,
    den := Nat.pow 2 (2 - q).toNat, closed := m % 2 == 0 }

/-- Whether `n · 10 ^ e` reads as the number of the interval. -/
def Interval.holds (i : Interval) (n : Nat) (e : Int) : Bool :=
  let x := n * Nat.pow 10 e.toNat * i.den
  let unit := Nat.pow 10 (-e).toNat
  if i.closed then i.low * unit ≤ x ∧ x ≤ i.high * unit else i.low * unit < x ∧ x < i.high * unit

/-- The two multiples of `10 ^ e` next to the number, the nearer one first; a tie prefers the upper one. -/
def Interval.neighbours (i : Interval) (e : Int) : List Nat :=
  let x := i.value * Nat.pow 10 (-e).toNat
  let unit := i.den * Nat.pow 10 e.toNat
  let down := x / unit
  if 2 * (x % unit) < unit then [down, down + 1] else [down + 1, down]

/-- The number of decimal digits before the point; zero or negative for numbers below one tenth. -/
def Interval.magnitude (i : Interval) : Int :=
  if i.den ≤ i.value then (Nat.toDigits 10 (i.value / i.den)).length
  else 1 - (Nat.toDigits 10 ((i.den - 1) / i.value)).length

/-- The first grid of decimals, from coarse to fine, on which a neighbour of the number reads as it. -/
def Interval.search (i : Interval) : List Int → Decimal
  | [] => ⟨0, 0⟩
  | e :: finer =>
    match (i.neighbours e).find? (i.holds · e) with
    | some n => ⟨n, e⟩
    | none => i.search finer

/-- The shortest decimal that reads as `m · 2 ^ q`, for a positive `m`. Seventeen digits always suffice. -/
def shortest (m : Nat) (q : Int) : Decimal :=
  let i := interval m q
  i.search ((List.range 19).map fun k : Nat => i.magnitude + 1 - k)

/-- The digits of a decimal without zeros at the end, and the exponent of the last one that is left. -/
def Decimal.trimmed (d : Decimal) : List Char × Int :=
  let ds := Nat.toDigits 10 d.digits
  let kept := (ds.reverse.dropWhile (· == '0')).reverse
  (kept, d.exponent + (ds.length - kept.length : Nat))

/-- Digits with a point so that the last digit counts `10 ^ e`; `places` digits at least follow the point. -/
def layout (places : Nat) (ds : List Char) (e : Int) : String :=
  let whole := ds ++ List.replicate e.toNat '0'
  let after := (-e).toNat
  let wide := List.replicate (after + 1 - whole.length) '0' ++ whole
  let front := wide.take (wide.length - after)
  let back := wide.drop (wide.length - after)
  let back := back ++ List.replicate (places - back.length) '0'
  String.ofList (if back.isEmpty then front else front ++ '.' :: back)

/-- One digit, a point and the others if there are any, and the exponent of the first digit. -/
def exponential (ds : List Char) (e : Int) : String :=
  let fraction := ds.drop 1
  let point := if fraction.isEmpty then [] else '.' :: fraction
  String.ofList (ds.take 1 ++ point) ++ "e" ++ toString (e + fraction.length)

/-- A text with a minus sign before it, or without. -/
def signed (negative : Bool) (text : String) : String := if negative then "-" ++ text else text

/-- A number as messages show it: never an exponent, and no point when it is whole. -/
def plain (x : Binary64) : String :=
  match x.reading with
  | .nan => "NaN"
  | .infinite negative => signed negative "inf"
  | .finite negative 0 _ => signed negative "0"
  | .finite negative m q =>
    let (ds, e) := (shortest m q).trimmed
    signed negative (layout 0 ds e)

/-- A number as inspection shows it: at least one digit after the point, and an exponent from `10 ^ 16` on and
below `10 ^ -4`. -/
def scientific (x : Binary64) : String :=
  match x.reading with
  | .nan => "NaN"
  | .infinite negative => signed negative "inf"
  | .finite negative 0 _ => signed negative "0.0"
  | .finite negative m q =>
    let (ds, e) := (shortest m q).trimmed
    let leading := e + ds.length
    signed negative (if -4 < leading ∧ leading ≤ 16 then layout 1 ds e else exponential ds e)

end PowerRails.Binary64
