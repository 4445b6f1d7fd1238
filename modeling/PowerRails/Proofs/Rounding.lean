import Mathlib.Algebra.Order.Round
import Mathlib.Data.Rat.Floor
import Mathlib.Tactic.Linarith
import PowerRails.Linear16

/-! # Exact rounding

A binary64 number that is finite denotes a rational. The mantissa of a voltage is this rational, in units of a power of
two, rounded to the nearest integer, a half going away from zero; there is no other rounding, and the voltage has a
mantissa exactly if this integer is a word. -/

namespace PowerRails

/-- The rational that a number denotes, if it is finite. -/
def Binary64.Reading.value? : Reading → Option ℚ
  | .finite negative m q => some (if negative then -(m * 2 ^ q) else m * 2 ^ q)
  | _ => none

/-- The rational that a number denotes, if it is finite. -/
def Binary64.value? (x : Binary64) : Option ℚ := x.reading.value?

/-- The nearest integer, a half going away from zero. -/
def roundAway (x : ℚ) : ℤ := if x < 0 then -round (-x) else round x

theorem roundAway_neg (x : ℚ) : roundAway (-x) = -roundAway x := by
  unfold roundAway
  rcases lt_trichotomy x 0 with hx | rfl | hx
  · rw [if_neg (by linarith), if_pos hx, neg_neg]
  · simp
  · rw [if_pos (by linarith), if_neg (by linarith), neg_neg]

theorem roundAway_of_nonneg {x : ℚ} (h : 0 ≤ x) : roundAway x = round x := if_neg (not_lt.mpr h)

theorem roundAway_nonneg {x : ℚ} (h : 0 ≤ x) : 0 ≤ roundAway x := by
  rw [roundAway_of_nonneg h, round_eq]
  exact Int.floor_nonneg.mpr (by linarith)

theorem roundAway_eq_zero_iff {x : ℚ} (h : 0 ≤ x) : roundAway x = 0 ↔ x < 1 / 2 := by
  rw [roundAway_of_nonneg h, round_eq_zero_iff, Set.mem_Ico]
  exact and_iff_right (by linarith)

theorem two_pow_toNat (q : ℤ) : (Nat.pow 2 q.toNat : ℚ) = 2 ^ q * Nat.pow 2 (-q).toNat := by
  simp only [Nat.pow_eq, Nat.cast_pow, Nat.cast_ofNat]
  rw [← zpow_natCast, ← zpow_natCast, ← zpow_add₀ two_ne_zero]
  congr 1
  omega

namespace Linear16

theorem roundScaled_eq_round (m : Nat) (q : ℤ) : (roundScaled m q : ℤ) = round (m * 2 ^ q : ℚ) := by
  have hhalf : (0 : ℚ) < Nat.pow 2 (-q).toNat := by exact_mod_cast Nat.two_pow_pos _
  have hfraction : (m * 2 ^ q + 1 / 2 : ℚ) =
      ((2 * (m * Nat.pow 2 q.toNat) + Nat.pow 2 (-q).toNat : Nat) : ℚ) / ((2 * Nat.pow 2 (-q).toNat : Nat) : ℚ) := by
    push_cast
    rw [two_pow_toNat]
    field_simp
  rw [round_eq, hfraction, Rat.floor_natCast_div_natCast]
  rfl

/-- A voltage has a mantissa if it is finite and its rounded count of units is a word. -/
theorem mantissa?_eq_some_iff {volts : Binary64} {exponent : ℤ} {word : UInt16} :
    mantissa? volts exponent = some word ↔
      ∃ x, volts.value? = some x ∧ roundAway (x * 2 ^ (-exponent)) = word.toNat := by
  unfold mantissa? Binary64.value?
  cases volts.reading with
  | nan => simp [Binary64.Reading.value?]
  | infinite negative => simp [Binary64.Reading.value?]
  | finite negative m q =>
    have hunits : (0 : ℚ) ≤ m * 2 ^ (q - exponent) := mul_nonneg (Nat.cast_nonneg m) (zpow_nonneg two_pos.le _)
    have hround : roundAway (m * 2 ^ (q - exponent)) = roundScaled m (q - exponent) := by
      rw [roundAway_of_nonneg hunits, roundScaled_eq_round]
    have hscale : (m * 2 ^ q * 2 ^ (-exponent) : ℚ) = m * 2 ^ (q - exponent) := by
      rw [mul_assoc, ← zpow_add₀ two_ne_zero, sub_eq_add_neg]
    dsimp only
    generalize roundScaled m (q - exponent) = n at hround ⊢
    have hword : ∀ n < 65536, UInt16.ofNat n = word ↔ n = word.toNat := fun n hn => by
      rw [← UInt16.toNat_inj, UInt16.toNat_ofNat_of_lt' hn]
    have hlt : word.toNat < 65536 := word.toNat_lt
    -- Either sign counts the same units; below zero, the count must be zero to be that of a word.
    cases negative with
    | false =>
      simp only [Binary64.Reading.value?, Bool.false_eq_true, if_false, Option.some.injEq, exists_eq_left', hscale,
        hround, false_implies, and_true]
      split
      · rename_i hn
        rw [Option.some_inj, hword n hn]
        omega
      · simp only [reduceCtorEq, false_iff]
        omega
    | true =>
      simp only [Binary64.Reading.value?, if_true, Option.some.injEq, exists_eq_left', neg_mul, hscale, roundAway_neg,
        hround, true_implies]
      split
      · rename_i hn
        rw [Option.some_inj, hword n hn.1]
        omega
      · simp only [reduceCtorEq, false_iff]
        omega

theorem encode_eq_ok_iff {volts : Binary64} {exponent : ℤ} {word : UInt16} :
    encode volts exponent = .ok word ↔
      ∃ x, volts.value? = some x ∧ roundAway (x * 2 ^ (-exponent)) = word.toNat := by
  rw [← mantissa?_eq_some_iff]
  unfold encode
  cases mantissa? volts exponent <;> simp

theorem encode_zero (exponent : ℤ) : encode (.zero false) exponent = .ok 0 := by
  have hreading : (Binary64.zero false).reading = .finite false 0 (-1074) := by decide
  refine encode_eq_ok_iff.mpr ⟨0, ?_, by simp [roundAway]⟩
  simp [Binary64.value?, hreading, Binary64.Reading.value?]

/-- Less than half a unit below zero is rounded to zero, and whatever is further below it to an integer below zero. -/
theorem roundAway_units_of_neg {x : ℚ} (h : x < 0) (exponent : ℤ) :
    roundAway (x * 2 ^ (-exponent)) ≤ 0 ∧
      (roundAway (x * 2 ^ (-exponent)) = 0 ↔ -2 ^ (exponent - 1) < x) := by
  have hunit : (0 : ℚ) < 2 ^ exponent := zpow_pos two_pos exponent
  have hbelow : x * 2 ^ (-exponent) = -(-x / 2 ^ exponent) := by
    rw [zpow_neg, div_eq_mul_inv, neg_mul, neg_neg]
  have hunits : 0 ≤ -x / 2 ^ exponent := div_nonneg (by linarith) hunit.le
  rw [hbelow, roundAway_neg]
  refine ⟨neg_nonpos.mpr (roundAway_nonneg hunits), ?_⟩
  rw [neg_eq_zero, roundAway_eq_zero_iff hunits, div_lt_iff₀ hunit, zpow_sub_one₀ two_ne_zero]
  constructor <;> intro hless <;> linarith

/-- A number that is no voltage has no mantissa, unless it is so little below zero that it is rounded to zero. -/
theorem encode_of_invalid {volts : Binary64} (h : ∀ x, volts.value? = some x → x < 0) (exponent : ℤ) :
    (∃ x, volts.value? = some x ∧ -2 ^ (exponent - 1) < x ∧ encode volts exponent = .ok 0) ∨
      (∀ x, volts.value? = some x → x ≤ -2 ^ (exponent - 1)) ∧ encode volts exponent =
        .error (.invalidAction action s!"{volts.plain} V is not representable with exponent {exponent}") := by
  by_cases hnear : ∃ x, volts.value? = some x ∧ -2 ^ (exponent - 1) < x
  · obtain ⟨x, hx, hnear⟩ := hnear
    refine .inl ⟨x, hx, hnear, encode_eq_ok_iff.mpr ⟨x, hx, ?_⟩⟩
    exact (roundAway_units_of_neg (h x hx) exponent).2.mpr hnear
  · refine .inr ⟨fun x hx => not_lt.mp fun hless => hnear ⟨x, hx, hless⟩, ?_⟩
    cases hmantissa : mantissa? volts exponent with
    | none => rw [encode, hmantissa]
    | some word =>
      obtain ⟨x, hx, hrounded⟩ := mantissa?_eq_some_iff.mp hmantissa
      obtain ⟨hle, hzero⟩ := roundAway_units_of_neg (h x hx) exponent
      exact absurd ⟨x, hx, hzero.mp (by omega)⟩ hnear

end Linear16

/-- A number can be asked for as a voltage if it denotes a rational that is not negative. -/
theorem Binary64.isVoltage_iff {x : Binary64} : x.IsVoltage ↔ ∃ y, x.value? = some y ∧ 0 ≤ y := by
  unfold IsVoltage value?
  cases x.reading with
  | nan => simp [Reading.value?]
  | infinite negative => simp [Reading.value?]
  | finite negative m q =>
    have hpower : (0 : ℚ) < 2 ^ q := zpow_pos two_pos q
    cases negative with
    | false => simpa [Reading.value?] using mul_nonneg (Nat.cast_nonneg m) hpower.le
    | true =>
      simp only [Reading.value?, if_true, Option.some.injEq, exists_eq_left', Left.nonneg_neg_iff]
      refine ⟨fun hm => by simp [hm], fun h => Nat.eq_zero_of_not_pos fun hm => ?_⟩
      exact (mul_pos (Nat.cast_pos.mpr hm) hpower).not_ge h

end PowerRails
