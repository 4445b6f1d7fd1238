import PowerRails.Proofs.Arithmetic

/-! # Exact encoding of voltages

Encoding a voltage step by step in binary64 arithmetic loses nothing: where scaling by the power of two makes a number
infinite, no word would do, and where it loses digits, the number is rounded to zero anyway. So a voltage is encoded as
its exact count of units rounded to the nearest integer, a half going away from zero, if this is a word, and is refused
otherwise. -/

namespace PowerRails

/-! ### Rounding -/

theorem abs_roundAway_sub_le (x : ℚ) : |(roundAway x : ℚ) - x| ≤ 1 / 2 := by
  unfold roundAway
  split
  · have hround := abs_sub_round (-x)
    rwa [sub_eq_add_neg, add_comm, ← Int.cast_neg, ← sub_eq_add_neg] at hround
  · rw [abs_sub_comm]
    exact abs_sub_round x

theorem round_le_round {x y : ℚ} (h : x ≤ y) : round x ≤ round y := by
  rw [round_eq, round_eq]
  exact Int.floor_mono (by linarith)

theorem roundAway_mono {x y : ℚ} (h : x ≤ y) : roundAway x ≤ roundAway y := by
  rcases lt_or_ge y 0 with hy | hy
  · unfold roundAway
    rw [if_pos (h.trans_lt hy), if_pos hy]
    exact neg_le_neg (round_le_round (neg_le_neg h))
  rcases lt_or_ge x 0 with hx | hx
  · calc roundAway x = -roundAway (-x) := by rw [roundAway_neg, neg_neg]
      _ ≤ 0 := neg_nonpos.mpr (roundAway_nonneg (by linarith))
      _ ≤ roundAway y := roundAway_nonneg hy
  · rw [roundAway_of_nonneg hx, roundAway_of_nonneg hy]
    exact round_le_round h

theorem roundAway_natCast (n : ℕ) : roundAway n = n := by
  rw [roundAway_of_nonneg (Nat.cast_nonneg n), round_natCast]

/-- What is so close to zero is rounded to zero. -/
theorem roundAway_eq_zero {x : ℚ} (h : |x| < 1 / 2) : roundAway x = 0 := by
  obtain ⟨hlow, hhigh⟩ := abs_lt.mp h
  rcases lt_or_ge x 0 with hx | hx
  · rw [← neg_neg x, roundAway_neg, (roundAway_eq_zero_iff (by linarith)).mpr (by linarith), neg_zero]
  · exact (roundAway_eq_zero_iff hx).mpr hhigh

namespace Linear16

/-! ### Encoding by exact arithmetic -/

/-- How a voltage is refused that no word stands for. -/
def unrepresentable (volts : Binary64) (exponent : ℤ) : Fault :=
  .invalidAction action s!"{volts.plain} V is not representable with exponent {exponent}"

theorem encode_eq_error {volts : Binary64} {exponent : ℤ}
    (h : ∀ word, encode volts exponent ≠ .ok word) :
    encode volts exponent = .error (unrepresentable volts exponent) := by
  unfold encode at h ⊢
  cases hmantissa : mantissa? volts exponent with
  | none => rfl
  | some word =>
    rw [hmantissa] at h
    exact absurd rfl (h word)

theorem encode_of_not_finite {volts : Binary64} (h : volts.value? = none) (exponent : ℤ) :
    encode volts exponent = .error (unrepresentable volts exponent) := by
  refine encode_eq_error fun word hok => ?_
  obtain ⟨v, hv, -⟩ := encode_eq_ok_iff.mp hok
  cases h.symm.trans hv

theorem roundAway_of_ok {volts : Binary64} {v : ℚ} {exponent : ℤ} {word : UInt16} (h : volts.value? = some v)
    (hok : encode volts exponent = .ok word) : roundAway (v * 2 ^ (-exponent)) = word.toNat := by
  obtain ⟨v', hv', hrounded⟩ := encode_eq_ok_iff.mp hok
  obtain rfl := Option.some.inj (hv'.symm.trans h)
  exact hrounded

/-- The rounded count of units, if it is a word. -/
theorem encode_of_value {volts : Binary64} {v : ℚ} (h : volts.value? = some v) (exponent : ℤ) :
    encode volts exponent =
      if 0 ≤ roundAway (v * 2 ^ (-exponent)) ∧ roundAway (v * 2 ^ (-exponent)) ≤ 65535
      then .ok (UInt16.ofNat (roundAway (v * 2 ^ (-exponent))).toNat)
      else .error (unrepresentable volts exponent) := by
  split
  · rename_i hword
    have hless : (roundAway (v * 2 ^ (-exponent))).toNat < 2 ^ 16 := by omega
    refine encode_eq_ok_iff.mpr ⟨v, h, ?_⟩
    rw [UInt16.toNat_ofNat_of_lt' hless]
    omega
  · rename_i hword
    refine encode_eq_error fun word hok => hword ?_
    have hrounded := roundAway_of_ok h hok
    have hless := word.toNat_lt
    omega

/-! ### Encoding by binary64 arithmetic -/

/-- A word as a number. -/
def ofWord (word : UInt16) : Binary64 := .nearestScaled false word.toNat 0

/-- Encoding step by step in binary64 arithmetic: the voltage is scaled, rounded, compared with the least and the
greatest word, and converted. -/
def encodeStepwise (volts : Binary64) (exponent : ℤ) : Except Fault UInt16 :=
  let raw := (volts.times (.powerOfTwo (-exponent))).integral
  if (ofWord 0).atMost raw ∧ raw.atMost (ofWord 65535) then .ok raw.toWord
  else .error (unrepresentable volts exponent)

theorem value?_ofWord (word : UInt16) : (ofWord word).value? = some (word.toNat : ℚ) := by
  have hword : word.toNat < 2 ^ 16 := word.toNat_lt
  have hvalue := Binary64.value?_nearestScaled false (m := word.toNat) (q := 0) (a := word.toNat) (p := 0)
    (hword.trans (by decide)) (by omega) (by omega) rfl
  rwa [zpow_zero, mul_one] at hvalue

/-- What is not finite lies between no words. -/
theorem not_between_of_eq_none {x : Binary64} (h : x.value? = none) :
    ¬((ofWord 0).atMost x.integral = true ∧ x.integral.atMost (ofWord 65535) = true) := by
  obtain ⟨s, m, p, hleast, -⟩ := Binary64.exists_reading (value?_ofWord 0)
  obtain ⟨t, n, q, hgreatest, -⟩ := Binary64.exists_reading (value?_ofWord 65535)
  obtain hreading | ⟨negative, hreading⟩ := Binary64.reading_of_eq_none h
  · simp [Binary64.integral, Binary64.atMost, hreading]
  · cases negative <;> simp [Binary64.integral, Binary64.atMost, hreading, hleast, hgreatest]

theorem encodeStepwise_of_eq_none {volts : Binary64} {exponent : ℤ}
    (h : (volts.times (.powerOfTwo (-exponent))).value? = none) :
    encodeStepwise volts exponent = .error (unrepresentable volts exponent) :=
  if_neg (not_between_of_eq_none h)

theorem encodeStepwise_of_value {volts : Binary64} {exponent : ℤ} {v : ℚ}
    (h : (volts.times (.powerOfTwo (-exponent))).value? = some v) :
    encodeStepwise volts exponent =
      if 0 ≤ roundAway v ∧ roundAway v ≤ 65535 then .ok (UInt16.ofNat (roundAway v).toNat)
      else .error (unrepresentable volts exponent) := by
  have hraw := Binary64.value?_integral h
  have hleast := Binary64.atMost_iff (value?_ofWord 0) hraw
  have hgreatest := Binary64.atMost_iff hraw (value?_ofWord 65535)
  have hword : ((ofWord 0).atMost (volts.times (.powerOfTwo (-exponent))).integral = true ∧
      (volts.times (.powerOfTwo (-exponent))).integral.atMost (ofWord 65535) = true) ↔
        0 ≤ roundAway v ∧ roundAway v ≤ 65535 := by
    rw [hleast, hgreatest]
    exact_mod_cast Iff.rfl
  unfold encodeStepwise
  simp only [hword]
  split
  · rename_i hmem
    obtain ⟨n, hn⟩ := Int.eq_ofNat_of_zero_le hmem.1
    have hless : n < 2 ^ 16 := by omega
    rw [hn] at hraw ⊢
    congr 1
    refine Binary64.toWord_eq ?_
    rw [hraw, Int.toNat_natCast, UInt16.toNat_ofNat_of_lt' hless]
    rfl
  · rfl

/-- The smallest numbers that have all their digits are less than half a unit. -/
theorem roundAway_of_small {v : ℚ} (h : |v| ≤ 2 ^ (-1022 : ℤ)) : roundAway v = 0 := by
  refine roundAway_eq_zero (h.trans_lt ?_)
  calc (2 : ℚ) ^ (-1022 : ℤ) < 2 ^ (-1 : ℤ) := zpow_lt_zpow_right₀ one_lt_two (by omega)
    _ = 1 / 2 := by norm_num

theorem not_word_of_large {v : ℚ} (h : 2 ^ (1024 : ℤ) ≤ |v|) : ¬(0 ≤ roundAway v ∧ roundAway v ≤ 65535) := by
  rintro ⟨hlow, hhigh⟩
  have hlarge : (65536 : ℚ) ≤ |v| := by
    calc (65536 : ℚ) = 2 ^ (16 : ℤ) := by norm_num
      _ ≤ 2 ^ (1024 : ℤ) := zpow_le_zpow_right₀ one_le_two (by omega)
      _ ≤ |v| := h
  have hrounded := abs_roundAway_sub_le v
  have hlow : (0 : ℚ) ≤ roundAway v := by exact_mod_cast hlow
  have hhigh : (roundAway v : ℚ) ≤ 65535 := by exact_mod_cast hhigh
  have hclose : |v| ≤ |(roundAway v : ℚ)| + 1 / 2 := by
    have hdistance := abs_sub_abs_le_abs_sub v (roundAway v : ℚ)
    rw [abs_sub_comm] at hdistance
    linarith
  rw [abs_of_nonneg hlow] at hclose
  linarith only [hlarge, hclose, hhigh]

/-- Doing the arithmetic in binary64 makes no difference. -/
theorem encodeStepwise_eq (volts : Binary64) {exponent : ℤ} (h : -128 ≤ exponent) (h' : exponent ≤ 128) :
    encodeStepwise volts exponent = encode volts exponent := by
  cases hvolts : volts.value? with
  | none =>
    rw [encodeStepwise_of_eq_none (Binary64.value?_times_of_eq_none hvolts _), encode_of_not_finite hvolts]
  | some v =>
    rw [encode_of_value hvolts]
    -- Where the product has lost digits, they are too far below one half to matter, or the word is out of reach.
    cases Binary64.times_powerOfTwo hvolts (k := -exponent) (by omega) (by omega) with
    | exact hvalue => exact encodeStepwise_of_value hvalue
    | small hsmall hvalue hw =>
      rw [encodeStepwise_of_value hvalue, roundAway_of_small hw, roundAway_of_small hsmall.le]
    | large hlarge hinfinite =>
      have hvalue : (volts.times (.powerOfTwo (-exponent))).value? = none := by
        rw [Binary64.value?, hinfinite]
        rfl
      rw [encodeStepwise_of_eq_none hvalue, if_neg (not_word_of_large hlarge)]

/-! ### What is encoded -/

theorem encode_error {volts : Binary64} {v : ℚ} {exponent : ℤ} {word : UInt16} (h : volts.value? = some v)
    (hok : encode volts exponent = .ok word) : |(word.toNat : ℚ) * 2 ^ exponent - v| ≤ 2 ^ (exponent - 1) := by
  have hunit : (0 : ℚ) < 2 ^ exponent := zpow_pos two_pos exponent
  have hclose := abs_roundAway_sub_le (v * 2 ^ (-exponent))
  rw [roundAway_of_ok h hok, Int.cast_natCast] at hclose
  have hunits : (word.toNat : ℚ) * 2 ^ exponent - v = (word.toNat - v * 2 ^ (-exponent)) * 2 ^ exponent := by
    rw [sub_mul, mul_assoc, ← zpow_add₀ two_ne_zero, neg_add_cancel, zpow_zero, mul_one]
  calc |(word.toNat : ℚ) * 2 ^ exponent - v| = |(word.toNat : ℚ) - v * 2 ^ (-exponent)| * 2 ^ exponent := by
        rw [hunits, abs_mul, abs_of_pos hunit]
    _ ≤ 1 / 2 * 2 ^ exponent := mul_le_mul_of_nonneg_right hclose hunit.le
    _ = 2 ^ (exponent - 1) := by
      rw [zpow_sub_one₀ two_ne_zero]
      ring

theorem encode_mono {volts volts' : Binary64} {v v' : ℚ} {exponent : ℤ} {word word' : UInt16}
    (h : volts.value? = some v) (h' : volts'.value? = some v') (hle : v ≤ v') (hok : encode volts exponent = .ok word)
    (hok' : encode volts' exponent = .ok word') : word ≤ word' := by
  have hunit : (0 : ℚ) < 2 ^ (-exponent) := zpow_pos two_pos _
  have hrounds := roundAway_mono (mul_le_mul_of_nonneg_right hle hunit.le)
  rw [roundAway_of_ok h hok, roundAway_of_ok h' hok'] at hrounds
  exact UInt16.le_iff_toNat_le.mpr (by exact_mod_cast hrounds)

theorem encode_units {volts : Binary64} {exponent : ℤ} {word : UInt16}
    (h : volts.value? = some ((word.toNat : ℚ) * 2 ^ exponent)) : encode volts exponent = .ok word := by
  refine encode_eq_ok_iff.mpr ⟨_, h, ?_⟩
  rw [mul_assoc, ← zpow_add₀ two_ne_zero, add_neg_cancel, zpow_zero, mul_one]
  exact roundAway_natCast _

/-- Every count of units is a number. -/
theorem exists_units (word : UInt16) {exponent : ℤ} (h : -1074 ≤ exponent) (h' : exponent ≤ 971) :
    ∃ volts : Binary64, volts.value? = some ((word.toNat : ℚ) * 2 ^ exponent) := by
  have hword : word.toNat < 2 ^ 16 := word.toNat_lt
  exact ⟨_, Binary64.value?_nearestScaled false (m := word.toNat) (q := exponent) (hword.trans (by decide)) h h' rfl⟩

/-- A voltage is encoded as its exact count of units, rounded to the nearest integer, a half going away from zero, if
this is a word, and is refused otherwise, and binary64 arithmetic gives the same. So no more than half a unit is lost,
higher voltages are not encoded as lower ones, and every word comes back from the voltage that it stands for. -/
theorem encode_rounds (exponent : Int8) :
    (∀ volts, encodeStepwise volts exponent.toInt = encode volts exponent.toInt) ∧
    (∀ (volts : Binary64) (v : ℚ), volts.value? = some v →
      encode volts exponent.toInt =
        if 0 ≤ roundAway (v * 2 ^ (-exponent.toInt)) ∧ roundAway (v * 2 ^ (-exponent.toInt)) ≤ 65535
        then .ok (UInt16.ofNat (roundAway (v * 2 ^ (-exponent.toInt))).toNat)
        else .error (unrepresentable volts exponent.toInt)) ∧
    (∀ (volts : Binary64) (v : ℚ) (word : UInt16), volts.value? = some v →
      encode volts exponent.toInt = .ok word →
        |(word.toNat : ℚ) * 2 ^ exponent.toInt - v| ≤ 2 ^ (exponent.toInt - 1)) ∧
    (∀ (volts volts' : Binary64) (v v' : ℚ) (word word' : UInt16), volts.value? = some v →
      volts'.value? = some v' → v ≤ v' → encode volts exponent.toInt = .ok word →
        encode volts' exponent.toInt = .ok word' → word ≤ word') ∧
    ∀ word : UInt16,
      (∃ volts : Binary64, volts.value? = some ((word.toNat : ℚ) * 2 ^ exponent.toInt)) ∧
      ∀ volts : Binary64, volts.value? = some ((word.toNat : ℚ) * 2 ^ exponent.toInt) →
        encode volts exponent.toInt = .ok word := by
  have hleast : -2 ^ 7 ≤ exponent.toInt := exponent.le_toInt
  have hgreatest : exponent.toInt < 2 ^ 7 := exponent.toInt_lt
  refine ⟨fun volts => encodeStepwise_eq volts (by omega) (by omega), ?_, ?_, ?_, ?_⟩
  · intro volts v hvalue
    exact encode_of_value hvalue exponent.toInt
  · intro volts v word hvalue hok
    exact encode_error hvalue hok
  · intro volts volts' v v' word word' hvalue hvalue' hle hok hok'
    exact encode_mono hvalue hvalue' hle hok hok'
  · intro word
    exact ⟨exists_units word (by omega) (by omega), fun volts => encode_units⟩

/-- 1.3 V are 333 units of the exponent minus eight, with less than half a unit lost. -/
theorem encode_thirteen_tenths :
    Binary64.value? ⟨0x3FF4CCCCCCCCCCCD⟩ = some (((5854679515581645 : ℕ) : ℚ) * 2 ^ (-52 : ℤ)) ∧
      encodeStepwise ⟨0x3FF4CCCCCCCCCCCD⟩ (-8) = .ok 333 ∧
      |((333 : ℕ) : ℚ) * 2 ^ (-8 : ℤ) - ((5854679515581645 : ℕ) : ℚ) * 2 ^ (-52 : ℤ)| ≤ 2 ^ (-9 : ℤ) := by
  have hreading : Binary64.reading ⟨0x3FF4CCCCCCCCCCCD⟩ = .finite false 5854679515581645 (-52) := by decide
  have hvalue := Binary64.value?_of_reading hreading
  have hencoded : encode ⟨0x3FF4CCCCCCCCCCCD⟩ (-8) = .ok 333 := rfl
  have hrounds := encode_rounds (-8)
  exact ⟨hvalue, (hrounds.1 _).trans hencoded, hrounds.2.2.1 _ _ 333 hvalue hencoded⟩

end Linear16
end PowerRails
