import Mathlib.Tactic.Positivity
import Mathlib.Tactic.Ring
import PowerRails.Binary64.Arithmetic
import PowerRails.Proofs.Rounding

/-! # Arithmetic on binary64 numbers

What products with powers of two, rounding to integers, comparison and conversion to words come to, in terms of the
rationals that numbers denote. A number that is scaled by a power of two is scaled exactly, unless the result is too
large, and then it is infinite, or too small to keep all its digits, and then it stays that small. -/

namespace PowerRails.Binary64

theorem leadingBit_eq : leadingBit = 2 ^ 52 := rfl

theorem natCast_two_pow_mul (n : ℕ) (q : ℤ) : ((2 ^ n : ℕ) : ℚ) * 2 ^ q = 2 ^ (n + q) := by
  rw [Nat.cast_pow, Nat.cast_ofNat, ← zpow_natCast, ← zpow_add₀ two_ne_zero]

theorem leadingBit_mul (q : ℤ) : (leadingBit : ℚ) * 2 ^ q = 2 ^ (52 + q) := natCast_two_pow_mul 52 q

theorem two_leadingBit_mul (q : ℤ) : ((2 * leadingBit : ℕ) : ℚ) * 2 ^ q = 2 ^ (53 + q) := natCast_two_pow_mul 53 q

/-! ### Bits -/

theorem toNat_signBit_add (negative : Bool) {b : ℕ} (h : b < 2 ^ 63) :
    (signBit negative + UInt64.ofNat b).toNat = (if negative then 2 ^ 63 else 0) + b := by
  have hsign : (signBit negative).toNat = if negative then 2 ^ 63 else 0 := by cases negative <;> rfl
  rw [UInt64.toNat_add, hsign, UInt64.toNat_ofNat_of_lt' (h.trans (by decide))]
  cases negative
  · exact Nat.mod_eq_of_lt (by simp only [Bool.false_eq_true, if_false]; omega)
  · exact Nat.mod_eq_of_lt (by simp only [if_true]; omega)

/-- A number by its unit, counted from the least one, and the significand that counts the units. Only in the least unit
may the significand have less than fifty-three bits. -/
theorem reading_of_units (negative : Bool) {unit significand : ℕ} (h : significand < 2 * leadingBit)
    (hunit : unit = 0 ∨ leadingBit ≤ significand) (hfinite : unit * leadingBit + significand < 2047 * leadingBit) :
    reading ⟨signBit negative + UInt64.ofNat (unit * leadingBit + significand)⟩ =
      .finite negative significand (unit - 1074) := by
  rw [leadingBit_eq] at h hunit hfinite ⊢
  have hbits := toNat_signBit_add negative (b := unit * 2 ^ 52 + significand) (by omega)
  generalize hx : (⟨signBit negative + UInt64.ofNat (unit * 2 ^ 52 + significand)⟩ : Binary64) = x
  have hnat : x.bits.toNat = (if negative then 2 ^ 63 else 0) + (unit * 2 ^ 52 + significand) := by
    rw [← hx]
    exact hbits
  have hsign : x.negative = negative := by
    unfold Binary64.negative
    rw [hnat]
    cases negative
    · simp only [Bool.false_eq_true, if_false, beq_eq_false_iff_ne]
      omega
    · simp only [if_true, beq_iff_eq]
      omega
  have hfield : x.exponentField = (unit * 2 ^ 52 + significand) / 2 ^ 52 := by
    unfold exponentField
    rw [hnat, leadingBit_eq]
    cases negative <;> simp only [Bool.false_eq_true, if_false, if_true] <;> omega
  have hfraction : x.fraction = significand % 2 ^ 52 := by
    unfold fraction
    rw [hnat, leadingBit_eq]
    cases negative <;> simp only [Bool.false_eq_true, if_false, if_true] <;> omega
  unfold reading
  rw [hsign, hfield, hfraction, leadingBit_eq, if_neg (by omega)]
  -- In the least unit, the exponent bits tell whether the leading bit is set.
  split
  · rename_i hleast
    rw [show significand % 2 ^ 52 = significand by omega, show unit = 0 by omega]
    rfl
  · rw [show 2 ^ 52 + significand % 2 ^ 52 = significand by omega]
    congr 1
    omega

theorem reading_infinity (negative : Bool) : (infinity negative).reading = .infinite negative := by
  cases negative <;> decide

theorem reading_zero (negative : Bool) : (zero negative).reading = .finite negative 0 (-1074) := by
  cases negative <;> decide

/-- The significand of a number has no more than fifty-three bits, and its exponent is in the range of exponents. -/
theorem reading_bounds {x : Binary64} {s : Bool} {m : ℕ} {q : ℤ} (h : x.reading = .finite s m q) :
    m < 2 * leadingBit ∧ -1074 ≤ q ∧ q ≤ 971 := by
  have hfraction : x.fraction < leadingBit := Nat.mod_lt _ (by decide)
  have hfield : x.exponentField < 2048 := Nat.mod_lt _ (by decide)
  unfold reading at h
  split at h
  · split at h <;> cases h
  · split at h <;> cases h
    · exact ⟨by omega, by omega, by omega⟩
    · exact ⟨by omega, by omega, by omega⟩

/-! ### Rounding to even -/

theorem roundHalfEven_mul (k : ℕ) {den : ℕ} (h : 0 < den) : roundHalfEven (k * den) den = k := by
  simp [roundHalfEven, Nat.mul_div_cancel k h, h]

theorem roundHalfEven_le {num den k : ℕ} (h : num ≤ k * den) (hden : 0 < den) : roundHalfEven num den ≤ k := by
  have hdown : num / den ≤ k := Nat.div_le_of_le_mul (by rwa [mul_comm])
  rcases Nat.lt_or_eq_of_le hdown with hless | heq
  · unfold roundHalfEven
    dsimp only
    split <;> omega
  · have hexact : num = k * den := by
      refine le_antisymm h ?_
      rw [← heq]
      exact Nat.div_mul_le_self num den
    rw [hexact, roundHalfEven_mul k hden]

section
variable {m : ℕ} {q : ℤ}

/-! ### The unit of the nearest number -/

/-- The exponent of the leading bit of a positive number. -/
theorem log2_bounds (hm : 0 < m) (q : ℤ) :
    (2 : ℚ) ^ (m.log2 + q) ≤ m * 2 ^ q ∧ (m * 2 ^ q : ℚ) < 2 ^ (m.log2 + q + 1) := by
  have hpower : (0 : ℚ) < 2 ^ q := zpow_pos two_pos q
  have hlow : (2 : ℚ) ^ m.log2 ≤ m := by exact_mod_cast Nat.log2_self_le hm.ne'
  have hhigh : (m : ℚ) < 2 ^ (m.log2 + 1) := by exact_mod_cast Nat.lt_log2_self
  constructor
  · rw [zpow_add₀ two_ne_zero, zpow_natCast]
    exact mul_le_mul_of_nonneg_right hlow hpower.le
  · rw [add_right_comm, zpow_add₀ two_ne_zero]
    exact mul_lt_mul_of_pos_right (by exact_mod_cast hhigh) hpower

theorem log2_mul_two_pow (hm : 0 < m) (n : ℕ) : (m * Nat.pow 2 n).log2 = m.log2 + n := by
  have hpower : 0 < 2 ^ n := Nat.two_pow_pos n
  show (m * 2 ^ n).log2 = m.log2 + n
  rw [Nat.log2_eq_iff (Nat.mul_pos hm hpower).ne']
  refine ⟨?_, ?_⟩
  · rw [pow_add]
    exact Nat.mul_le_mul_right _ (Nat.log2_self_le hm.ne')
  · rw [add_right_comm, pow_add]
    exact Nat.mul_lt_mul_of_pos_right Nat.lt_log2_self hpower

/-- The fraction that is rounded is the number in units. -/
theorem scaled_units (m : ℕ) (q unit : ℤ) {n d : ℕ}
    (h : scaled (m * Nat.pow 2 q.toNat) (Nat.pow 2 (-q).toNat) unit = (n, d)) :
    0 < d ∧ (n * 2 ^ unit : ℚ) = m * 2 ^ q * d := by
  obtain ⟨rfl, rfl⟩ := Prod.mk.inj h
  refine ⟨Nat.mul_pos (Nat.two_pow_pos _) (Nat.two_pow_pos _), ?_⟩
  push_cast
  rw [two_pow_toNat q, two_pow_toNat unit]
  ring

/-- The unit in which the nearest number is counted: its significand has fifty-three bits, unless this is the least. -/
def unitOf (m : ℕ) (q : ℤ) : ℤ := max (m.log2 + q - 52) (-1074)

theorem unitExponent_eq (hm : 0 < m) (q : ℤ) :
    unitExponent (m * Nat.pow 2 q.toNat) (Nat.pow 2 (-q).toNat) = unitOf m q := by
  have hlog : (Nat.pow 2 (-q).toNat).log2 = (-q).toNat := Nat.log2_two_pow
  unfold unitExponent unitOf
  rw [log2_mul_two_pow hm, hlog]
  have hexponent : ((m.log2 + q.toNat : ℕ) : ℤ) - ((-q).toNat : ℕ) - 52 = m.log2 + q - 52 := by omega
  rw [hexponent]
  dsimp only
  rcases hscaled : scaled (m * Nat.pow 2 q.toNat) (Nat.pow 2 (-q).toNat) (m.log2 + q - 52) with ⟨n, d⟩
  obtain ⟨hd, hunits⟩ := scaled_units m q _ hscaled
  have hwide : leadingBit * d ≤ n := by
    have hunit : (0 : ℚ) < 2 ^ (m.log2 + q - 52 : ℤ) := zpow_pos two_pos _
    have hlow := (log2_bounds hm q).1
    have hleading : (leadingBit : ℚ) * 2 ^ (m.log2 + q - 52 : ℤ) = 2 ^ (m.log2 + q) := by
      rw [leadingBit_mul, add_sub_cancel]
    have hcast : ((leadingBit * d : ℕ) : ℚ) * 2 ^ (m.log2 + q - 52 : ℤ) ≤ n * 2 ^ (m.log2 + q - 52 : ℤ) := by
      rw [hunits, Nat.cast_mul, mul_right_comm, hleading]
      exact mul_le_mul_of_nonneg_right hlow (Nat.cast_nonneg d)
    exact_mod_cast le_of_mul_le_mul_right hcast hunit
  rw [if_neg (not_lt.mpr hwide)]

/-- The bits of the nearest number, if the unit counts it exactly: its unit and its significand, or infinity. -/
theorem magnitudeBits_of_units (hm : 0 < m) {k : ℕ} (h : (m * 2 ^ q : ℚ) = k * 2 ^ unitOf m q) :
    magnitudeBits (m * Nat.pow 2 q.toNat) (Nat.pow 2 (-q).toNat) =
      min ((unitOf m q + 1074).toNat * leadingBit + k) (2047 * leadingBit) := by
  unfold magnitudeBits
  rw [unitExponent_eq hm]
  dsimp only
  rcases hscaled : scaled (m * Nat.pow 2 q.toNat) (Nat.pow 2 (-q).toNat) (unitOf m q) with ⟨n, d⟩
  obtain ⟨hd, hunits⟩ := scaled_units m q _ hscaled
  have hunit : (0 : ℚ) < 2 ^ unitOf m q := zpow_pos two_pos _
  have hexact : n = k * d := by
    have hcast : (n : ℚ) * 2 ^ unitOf m q = (k * d : ℕ) * 2 ^ unitOf m q := by
      rw [hunits, h, Nat.cast_mul]
      ring
    exact_mod_cast mul_right_cancel₀ hunit.ne' hcast
  rw [hexact, roundHalfEven_mul k hd]

/-- Near zero there is no smaller unit, and what is rounded is no more than the least number with a leading bit. -/
theorem magnitudeBits_of_small (hm : 0 < m) (h : m.log2 + q < -1022) :
    magnitudeBits (m * Nat.pow 2 q.toNat) (Nat.pow 2 (-q).toNat) ≤ leadingBit := by
  have hleast : unitOf m q = -1074 := by
    unfold unitOf
    omega
  unfold magnitudeBits
  rw [unitExponent_eq hm, hleast]
  dsimp only
  rcases hscaled : scaled (m * Nat.pow 2 q.toNat) (Nat.pow 2 (-q).toNat) (-1074) with ⟨n, d⟩
  obtain ⟨hd, hunits⟩ := scaled_units m q _ hscaled
  have hunit : (0 : ℚ) < 2 ^ (-1074 : ℤ) := zpow_pos two_pos _
  have hsmall : (m * 2 ^ q : ℚ) ≤ leadingBit * 2 ^ (-1074 : ℤ) := by
    calc (m * 2 ^ q : ℚ) ≤ 2 ^ (m.log2 + q + 1) := (log2_bounds hm q).2.le
      _ ≤ 2 ^ (-1022 : ℤ) := zpow_le_zpow_right₀ one_le_two (by omega)
      _ = leadingBit * 2 ^ (-1074 : ℤ) := by
        rw [leadingBit_mul]
        rfl
  have hle : n ≤ leadingBit * d := by
    have hcast : (n : ℚ) * 2 ^ (-1074 : ℤ) ≤ (leadingBit * d : ℕ) * 2 ^ (-1074 : ℤ) := by
      rw [hunits, Nat.cast_mul, mul_right_comm (leadingBit : ℚ)]
      exact mul_le_mul_of_nonneg_right hsmall (Nat.cast_nonneg d)
    exact_mod_cast le_of_mul_le_mul_right hcast hunit
  have hrounded := roundHalfEven_le hle hd
  simp only [Int.reduceNeg, neg_add_cancel, Int.toNat_zero, zero_mul, zero_add]
  omega

/-! ### The nearest number -/

/-- A rational with the sign that a number keeps. -/
def withSignOf (negative : Bool) (v : ℚ) : ℚ := if negative then -v else v

theorem value?_of_reading {x : Binary64} {s : Bool} (h : x.reading = .finite s m q) :
    x.value? = some (withSignOf s (m * 2 ^ q)) := by
  unfold value?
  rw [h]
  rfl

/-- The significand that counts the units of a positive number. -/
theorem exists_significand (hm : 0 < m) {a : ℕ} {p : ℤ} (h : (m * 2 ^ q : ℚ) = a * 2 ^ p) (hunit : unitOf m q ≤ p) :
    ∃ k : ℕ, (m * 2 ^ q : ℚ) = k * 2 ^ unitOf m q ∧ k < 2 * leadingBit ∧
      (unitOf m q = -1074 ∨ leadingBit ≤ k) := by
  obtain ⟨hlow, hhigh⟩ := log2_bounds hm q
  have hpower : (0 : ℚ) < 2 ^ unitOf m q := zpow_pos two_pos _
  have hk : (m * 2 ^ q : ℚ) = (a * 2 ^ (p - unitOf m q).toNat : ℕ) * 2 ^ unitOf m q := by
    rw [h, Nat.cast_mul, Nat.cast_pow, Nat.cast_ofNat, mul_assoc, ← zpow_natCast, ← zpow_add₀ two_ne_zero]
    congr 2
    omega
  generalize a * 2 ^ (p - unitOf m q).toNat = k at hk
  refine ⟨k, hk, ?_, ?_⟩
  · have hless : (k : ℚ) * 2 ^ unitOf m q < (2 * leadingBit : ℕ) * 2 ^ unitOf m q := by
      calc (k : ℚ) * 2 ^ unitOf m q < 2 ^ (m.log2 + q + 1) := hk ▸ hhigh
        _ ≤ 2 ^ (53 + unitOf m q) := zpow_le_zpow_right₀ one_le_two (by unfold unitOf; omega)
        _ = (2 * leadingBit : ℕ) * 2 ^ unitOf m q := (two_leadingBit_mul _).symm
    exact_mod_cast lt_of_mul_lt_mul_right hless hpower.le
  · rw [or_iff_not_imp_left]
    intro hnormal
    have hle : (leadingBit : ℚ) * 2 ^ unitOf m q ≤ k * 2 ^ unitOf m q := by
      calc (leadingBit : ℚ) * 2 ^ unitOf m q = 2 ^ (52 + unitOf m q) := leadingBit_mul _
        _ ≤ 2 ^ (m.log2 + q) := zpow_le_zpow_right₀ one_le_two (by unfold unitOf at hnormal ⊢; omega)
        _ ≤ k * 2 ^ unitOf m q := hk ▸ hlow
    exact_mod_cast le_of_mul_le_mul_right hle hpower

/-- What becomes of a positive number whose significand needs at most fifty-three bits. -/
theorem nearestScaled_of_pos (negative : Bool) (hm : 0 < m) {a : ℕ} {p : ℤ} (h : (m * 2 ^ q : ℚ) = a * 2 ^ p)
    (hunit : unitOf m q ≤ p) :
    (nearestScaled negative m q).value? = some (withSignOf negative (m * 2 ^ q)) ∨
      2 ^ (1024 : ℤ) ≤ (m * 2 ^ q : ℚ) ∧ (nearestScaled negative m q).reading = .infinite negative := by
  obtain ⟨k, hk, hless, hnormal⟩ := exists_significand hm h hunit
  have hbits := magnitudeBits_of_units hm hk
  have hleast : -1074 ≤ unitOf m q := le_max_right _ _
  have hindex : ((unitOf m q + 1074).toNat : ℤ) - 1074 = unitOf m q := by omega
  rw [nearestScaled, if_neg hm.ne', hbits]
  by_cases hfinite : (unitOf m q + 1074).toNat * leadingBit + k < 2047 * leadingBit
  · have hreading := reading_of_units negative hless (hnormal.imp_left fun h => by omega) hfinite
    rw [hindex] at hreading
    rw [min_eq_left hfinite.le, hk]
    exact .inl (value?_of_reading hreading)
  · rw [min_eq_right (not_lt.mp hfinite)]
    refine .inr ⟨?_, reading_infinity negative⟩
    have hlarge : 1024 ≤ m.log2 + q := by
      rw [leadingBit_eq] at hfinite hless
      unfold unitOf at hfinite hleast
      omega
    calc (2 : ℚ) ^ (1024 : ℤ) ≤ 2 ^ (m.log2 + q) := zpow_le_zpow_right₀ one_le_two hlarge
      _ ≤ m * 2 ^ q := (log2_bounds hm q).1

/-- The unit is no greater than that of the number, unless the number is too small for its unit. -/
theorem log2_le_of_eq (hm : 0 < m) {a : ℕ} {p : ℤ} (ha : a < 2 * leadingBit) (h : (m * 2 ^ q : ℚ) = a * 2 ^ p) :
    m.log2 + q - 52 ≤ p := by
  have hless : (2 : ℚ) ^ (m.log2 + q) < 2 ^ (53 + p) := by
    calc (2 : ℚ) ^ (m.log2 + q) ≤ m * 2 ^ q := (log2_bounds hm q).1
      _ = a * 2 ^ p := h
      _ < (2 * leadingBit : ℕ) * 2 ^ p := mul_lt_mul_of_pos_right (by exact_mod_cast ha) (zpow_pos two_pos p)
      _ = 2 ^ (53 + p) := two_leadingBit_mul p
  have := (zpow_lt_zpow_iff_right₀ one_lt_two).mp hless
  omega

/-- A number that has all its digits is not changed by rounding. -/
theorem value?_nearestScaled (negative : Bool) {a : ℕ} {p : ℤ} (ha : a < 2 * leadingBit) (hp : -1074 ≤ p)
    (hp' : p ≤ 971) (h : (m * 2 ^ q : ℚ) = a * 2 ^ p) :
    (nearestScaled negative m q).value? = some (withSignOf negative (m * 2 ^ q)) := by
  rcases Nat.eq_zero_or_pos m with rfl | hm
  · rw [nearestScaled, if_pos rfl, value?_of_reading (reading_zero negative)]
    simp
  · rcases nearestScaled_of_pos negative hm h (max_le (log2_le_of_eq hm ha h) hp) with hvalue | ⟨hlarge, -⟩
    · exact hvalue
    · have hless : (m * 2 ^ q : ℚ) < 2 ^ (1024 : ℤ) := by
        calc (m * 2 ^ q : ℚ) = a * 2 ^ p := h
          _ < (2 * leadingBit : ℕ) * 2 ^ p := mul_lt_mul_of_pos_right (by exact_mod_cast ha) (zpow_pos two_pos p)
          _ = 2 ^ (53 + p) := two_leadingBit_mul p
          _ ≤ 2 ^ (1024 : ℤ) := zpow_le_zpow_right₀ one_le_two (by omega)
      exact absurd hlarge (not_le.mpr hless)

/-- A number is a rational, or both are too small for all digits to be kept, or the rational is too large and the number
infinite. -/
inductive Approximates (x : Binary64) (v : ℚ) : Prop where
  | exact : x.value? = some v → x.Approximates v
  | small {w : ℚ} : |v| < 2 ^ (-1022 : ℤ) → x.value? = some w → |w| ≤ 2 ^ (-1022 : ℤ) → x.Approximates v
  | large {negative : Bool} : 2 ^ (1024 : ℤ) ≤ |v| → x.reading = .infinite negative → x.Approximates v

theorem abs_withSignOf (negative : Bool) (v : ℚ) : |withSignOf negative v| = |v| := by
  cases negative with
  | false => rfl
  | true => exact abs_neg v

theorem nearestScaled_of_small (negative : Bool) (hm : 0 < m) (h : m.log2 + q < -1022) :
    ∃ w, (nearestScaled negative m q).value? = some w ∧ |w| ≤ 2 ^ (-1022 : ℤ) := by
  have hbits := magnitudeBits_of_small hm h
  rw [nearestScaled, if_neg hm.ne']
  generalize magnitudeBits (m * Nat.pow 2 q.toNat) (Nat.pow 2 (-q).toNat) = b at hbits ⊢
  have hfinite : 0 * leadingBit + b < 2047 * leadingBit := by
    rw [zero_mul, zero_add]
    exact hbits.trans_lt (by decide)
  have hreading := reading_of_units negative (hbits.trans_lt (by decide)) (.inl rfl) hfinite
  rw [zero_mul, zero_add] at hreading
  refine ⟨_, value?_of_reading hreading, ?_⟩
  have hunit : (0 : ℚ) < 2 ^ (-1074 : ℤ) := zpow_pos two_pos _
  have hpower : ((0 : ℕ) : ℤ) - 1074 = -1074 := rfl
  rw [abs_withSignOf, hpower, abs_of_nonneg (mul_nonneg (Nat.cast_nonneg b) hunit.le)]
  calc (b : ℚ) * 2 ^ (-1074 : ℤ) ≤ leadingBit * 2 ^ (-1074 : ℤ) :=
        mul_le_mul_of_nonneg_right (by exact_mod_cast hbits) hunit.le
    _ = 2 ^ (-1022 : ℤ) := by
      rw [leadingBit_mul]
      rfl

theorem nearestScaled_approximates (negative : Bool) {a : ℕ} {p : ℤ} (ha : a < 2 * leadingBit)
    (h : (m * 2 ^ q : ℚ) = a * 2 ^ p) :
    (nearestScaled negative m q).Approximates (withSignOf negative (m * 2 ^ q)) := by
  have habs : |withSignOf negative (m * 2 ^ q : ℚ)| = m * 2 ^ q := by
    rw [abs_withSignOf]
    exact abs_of_nonneg (mul_nonneg (Nat.cast_nonneg m) (zpow_pos two_pos q).le)
  rcases Nat.eq_zero_or_pos m with rfl | hm
  · exact .exact (value?_nearestScaled negative (a := 0) (p := 0) (by decide) (by omega) (by omega) (by simp))
  by_cases hsmall : m.log2 + q < -1022
  · obtain ⟨w, hvalue, hw⟩ := nearestScaled_of_small negative hm hsmall
    refine .small ?_ hvalue hw
    rw [habs]
    calc (m * 2 ^ q : ℚ) < 2 ^ (m.log2 + q + 1) := (log2_bounds hm q).2
      _ ≤ 2 ^ (-1022 : ℤ) := zpow_le_zpow_right₀ one_le_two (by omega)
  · have hunit : unitOf m q ≤ p := by
      have := log2_le_of_eq hm ha h
      unfold unitOf
      omega
    rcases nearestScaled_of_pos negative hm h hunit with hvalue | ⟨hlarge, hreading⟩
    · exact .exact hvalue
    · exact .large (habs.symm ▸ hlarge) hreading

end

/-! ### Operations -/

section
variable {x y : Binary64} {v w : ℚ}

theorem exists_reading (h : x.value? = some v) : ∃ s m q, x.reading = .finite s m q ∧ v = withSignOf s (m * 2 ^ q) := by
  unfold value? at h
  cases hreading : x.reading with
  | finite s m q =>
    rw [hreading] at h
    exact ⟨s, m, q, rfl, (Option.some.inj h).symm⟩
  | _ => rw [hreading] at h; cases h

theorem reading_of_eq_none (h : x.value? = none) : x.reading = .nan ∨ ∃ s, x.reading = .infinite s := by
  unfold value? at h
  cases hreading : x.reading with
  | finite s m q => rw [hreading] at h; cases h
  | nan => exact .inl rfl
  | infinite s => exact .inr ⟨s, rfl⟩

theorem value?_powerOfTwo {k : ℤ} (hk : -1074 ≤ k) (hk' : k ≤ 971) : (powerOfTwo k).value? = some (2 ^ k) := by
  have hvalue := value?_nearestScaled false (m := 1) (q := k) (a := 1) (p := k) (by decide) hk hk' rfl
  rwa [Nat.cast_one, one_mul] at hvalue

/-- A product with a power of two. -/
theorem times_powerOfTwo (hx : x.value? = some v) {k : ℤ} (hk : -1074 ≤ k) (hk' : k ≤ 971) :
    (x.times (powerOfTwo k)).Approximates (v * 2 ^ k) := by
  obtain ⟨s, m, p, hreading, rfl⟩ := exists_reading hx
  obtain ⟨t, n, q, hpower, hvalue⟩ := exists_reading (value?_powerOfTwo hk hk')
  have hpositive : (0 : ℚ) < 2 ^ k := zpow_pos two_pos k
  have hnonneg : (0 : ℚ) ≤ n * 2 ^ q := mul_nonneg (Nat.cast_nonneg n) (zpow_pos two_pos q).le
  obtain rfl : t = false := by
    cases t with
    | false => rfl
    | true =>
      rw [hvalue] at hpositive
      exact absurd hpositive (not_lt.mpr (neg_nonpos.mpr hnonneg))
  have hproduct : ((m * n : ℕ) * 2 ^ (p + q) : ℚ) = m * 2 ^ (p + k) := by
    rw [zpow_add₀ two_ne_zero, zpow_add₀ two_ne_zero, hvalue, Nat.cast_mul]
    unfold withSignOf
    simp only [Bool.false_eq_true, if_false]
    ring
  have hscaled : withSignOf s (m * 2 ^ p) * 2 ^ k = withSignOf s ((m * n : ℕ) * 2 ^ (p + q)) := by
    rw [hproduct, zpow_add₀ two_ne_zero, ← mul_assoc]
    cases s with
    | false => rfl
    | true => exact neg_mul _ _
  have htimes : x.times (powerOfTwo k) = nearestScaled s (m * n) (p + q) := by
    unfold times
    rw [hreading, hpower]
    cases s <;> rfl
  rw [htimes, hscaled]
  exact nearestScaled_approximates s (reading_bounds hreading).1 hproduct

-- A digit is lost: the product is halfway between two numbers, and rounded to the even one.
example : times ⟨0x0010000000000001⟩ (powerOfTwo (-1)) = ⟨0x0008000000000000⟩ := by decide +kernel

theorem value?_undefined : undefined.value? = none := by
  have hreading : undefined.reading = .nan := by decide
  rw [value?, hreading]
  rfl

theorem value?_infinity (negative : Bool) : (infinity negative).value? = none := by
  rw [value?, reading_infinity]
  rfl

/-- No product is finite where the first factor is not. -/
theorem value?_times_of_eq_none (hx : x.value? = none) (y : Binary64) : (x.times y).value? = none := by
  unfold times
  obtain hreading | ⟨s, hreading⟩ := reading_of_eq_none hx
  · rw [hreading]
    exact value?_undefined
  · rw [hreading]
    cases y.reading with
    | finite t n q =>
      dsimp only
      split
      · exact value?_undefined
      · exact value?_infinity _
    | infinite t => exact value?_infinity _
    | nan => exact value?_undefined

theorem roundHalfUp_eq (num : ℕ) {den : ℕ} (h : 0 < den) : roundHalfUp num den = (2 * num + den) / (2 * den) := by
  have hdivision : 2 * num + den = 2 * den * (num / den) + (2 * (num % den) + den) := by
    conv_lhs => rw [← Nat.div_add_mod num den]
    ring
  have hless := Nat.mod_lt num h
  rw [hdivision, Nat.mul_add_div (by omega), roundHalfUp]
  split
  · have hdown : (2 * (num % den) + den) / (2 * den) = 0 := Nat.div_eq_of_lt (by omega)
    rw [hdown, add_zero]
  · have hup : (2 * (num % den) + den) / (2 * den) = 1 := Nat.div_eq_of_lt_le (by omega) (by omega)
    rw [hup]

/-- Numbers in units of one or more are integers, and the others have so few digits before the point that all of them
are kept. -/
theorem roundScaled_of_bounds {m : ℕ} {q : ℤ} (hm : m < 2 * leadingBit) (hq : -1074 ≤ q) (hq' : q ≤ 971) :
    ∃ (a : ℕ) (p : ℤ), a < 2 * leadingBit ∧ -1074 ≤ p ∧ p ≤ 971 ∧
      (Linear16.roundScaled m q * 2 ^ (0 : ℤ) : ℚ) = a * 2 ^ p := by
  have hround := Linear16.roundScaled_eq_round m q
  rcases lt_or_ge q 0 with hneg | hnonneg
  · refine ⟨Linear16.roundScaled m q, 0, ?_, by omega, by omega, rfl⟩
    have hhalf : (m * 2 ^ q : ℚ) ≤ m * 2 ^ (-1 : ℤ) :=
      mul_le_mul_of_nonneg_left (zpow_le_zpow_right₀ one_le_two (by omega)) (Nat.cast_nonneg m)
    have hle := round_le_add_half (m * 2 ^ q : ℚ)
    rw [← hround] at hle
    have hdouble : (2 * Linear16.roundScaled m q : ℚ) ≤ m + 1 := by
      rw [zpow_neg_one] at hhalf
      push_cast at hle
      linarith
    have hnat : 2 * Linear16.roundScaled m q ≤ m + 1 := by exact_mod_cast hdouble
    rw [leadingBit_eq] at hm ⊢
    omega
  · refine ⟨m, q, hm, hq, hq', ?_⟩
    have hinteger : (m * 2 ^ q : ℚ) = (m * 2 ^ q.toNat : ℕ) := by
      rw [Nat.cast_mul, Nat.cast_pow, Nat.cast_ofNat, ← zpow_natCast, Int.toNat_of_nonneg hnonneg]
    rw [hinteger, round_natCast] at hround
    rw [hinteger, zpow_zero, mul_one]
    exact_mod_cast hround

/-- Rounding to an integer is exact. -/
theorem value?_integral (hx : x.value? = some v) : x.integral.value? = some (roundAway v : ℚ) := by
  obtain ⟨s, m, q, hreading, rfl⟩ := exists_reading hx
  obtain ⟨hm, hq, hq'⟩ := reading_bounds hreading
  have hnonneg : (0 : ℚ) ≤ m * 2 ^ q := mul_nonneg (Nat.cast_nonneg m) (zpow_pos two_pos q).le
  have hintegral : x.integral = nearestScaled s (Linear16.roundScaled m q) 0 := by
    have hrounded : Linear16.roundScaled m q = roundHalfUp (m * Nat.pow 2 q.toNat) (Nat.pow 2 (-q).toNat) :=
      (roundHalfUp_eq _ (Nat.two_pow_pos _)).symm
    unfold integral
    rw [hreading, hrounded]
  have hsigned : ((roundAway (withSignOf s (m * 2 ^ q)) : ℤ) : ℚ) =
      withSignOf s (Linear16.roundScaled m q * 2 ^ (0 : ℤ)) := by
    have hround : roundAway (m * 2 ^ q) = Linear16.roundScaled m q := by
      rw [roundAway_of_nonneg hnonneg, Linear16.roundScaled_eq_round]
    unfold withSignOf
    cases s with
    | false => simp [hround]
    | true => simp [roundAway_neg, hround]
  obtain ⟨a, p, ha, hp, hp', heq⟩ := roundScaled_of_bounds hm hq hq'
  rw [hintegral, hsigned]
  exact value?_nearestScaled s ha hp hp' heq

-- A half goes away from zero, also below zero.
example : integral ⟨0xBFE0000000000000⟩ = ⟨0xBFF0000000000000⟩ := by decide +kernel

theorem withSignOf_eq (s : Bool) (m : ℕ) (q : ℤ) : withSignOf s (m * 2 ^ q) = (withSign s m : ℚ) * 2 ^ q := by
  cases s with
  | false => rfl
  | true => simp [withSignOf, withSign]

theorem atMost_iff (hx : x.value? = some v) (hy : y.value? = some w) : x.atMost y = true ↔ v ≤ w := by
  obtain ⟨s, m, p, hleft, rfl⟩ := exists_reading hx
  obtain ⟨t, n, q, hright, rfl⟩ := exists_reading hy
  have hcompared : x.atMost y = true ↔
      withSign s m * Nat.pow 2 (p - q).toNat ≤ withSign t n * Nat.pow 2 (q - p).toNat := by
    unfold atMost
    rw [hleft, hright]
    exact decide_eq_true_iff
  have hunit : (0 : ℚ) < Nat.pow 2 (q - p).toNat := by exact_mod_cast Nat.two_pow_pos _
  have hpower : (0 : ℚ) < 2 ^ q := zpow_pos two_pos q
  have hscale : (Nat.pow 2 (p - q).toNat : ℚ) = 2 ^ (p - q) * Nat.pow 2 (q - p).toNat := by
    rw [two_pow_toNat, neg_sub]
  have hsum : (2 : ℚ) ^ (p - q) * 2 ^ q = 2 ^ p := by rw [← zpow_add₀ two_ne_zero, sub_add_cancel]
  rw [hcompared, withSignOf_eq, withSignOf_eq]
  generalize withSign s m = a
  generalize withSign t n = b
  calc a * Nat.pow 2 (p - q).toNat ≤ b * Nat.pow 2 (q - p).toNat
      ↔ (a * Nat.pow 2 (p - q).toNat : ℚ) ≤ b * Nat.pow 2 (q - p).toNat := by exact_mod_cast Iff.rfl
    _ ↔ (a * 2 ^ (p - q) : ℚ) ≤ b := by rw [hscale, ← mul_assoc, mul_le_mul_iff_left₀ hunit]
    _ ↔ (a * 2 ^ p : ℚ) ≤ b * 2 ^ q := by rw [← hsum, ← mul_assoc, mul_le_mul_iff_left₀ hpower]

/-- The word of an integer that is a word. -/
theorem toWord_eq {word : UInt16} (hx : x.value? = some (word.toNat : ℚ)) : x.toWord = word := by
  obtain ⟨s, m, q, hreading, hvalue⟩ := exists_reading hx
  have hnonneg : (0 : ℚ) ≤ m * 2 ^ q := mul_nonneg (Nat.cast_nonneg m) (zpow_pos two_pos q).le
  unfold toWord
  rw [hreading]
  cases s with
  | true =>
    have hle : (word.toNat : ℚ) ≤ 0 := hvalue.trans_le (neg_nonpos.mpr hnonneg)
    have hzero : word.toNat = 0 := by exact_mod_cast le_antisymm hle (Nat.cast_nonneg _)
    exact (UInt16.toNat_inj.mp hzero).symm
  | false =>
    have hunits : m * Nat.pow 2 q.toNat = word.toNat * Nat.pow 2 (-q).toNat := by
      have hcast : (m * Nat.pow 2 q.toNat : ℚ) = word.toNat * Nat.pow 2 (-q).toNat := by
        rw [two_pow_toNat, ← mul_assoc, hvalue]
        rfl
      exact_mod_cast hcast
    have hword : word.toNat ≤ 65535 := Nat.le_of_lt_succ word.toNat_lt
    have hpower : 0 < Nat.pow 2 (-q).toNat := Nat.two_pow_pos _
    dsimp only
    rw [hunits, Nat.mul_div_cancel _ hpower, min_eq_left hword, UInt16.ofNat_toNat]

end
end PowerRails.Binary64
