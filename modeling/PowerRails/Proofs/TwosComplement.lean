import Mathlib.Algebra.BigOperators.Ring.Finset
import Mathlib.Data.Int.ModEq
import Mathlib.Data.Nat.Bitwise
import Mathlib.Tactic.Linarith
import Mathlib.Tactic.Ring
import PowerRails.Register

/-! # Two's complement

What is read from a register is decoded to the one integer of its format that agrees with the bits under the mask,
modulo the number of values that the format has. Decoding gives back every integer of the format from its bytes. And it
can be carried out in words of sixty-four bits, with and without a sign: no step leaves the range of its word. -/

namespace PowerRails

/-! ### Bytes -/

/-- The lowest bytes of an integer in two's complement, the lowest of them first. -/
def twosComplement : ℕ → ℤ → Bytes
  | 0, _ => []
  | count + 1, v => UInt8.ofNat (v % 256).toNat :: twosComplement count (v / 256)

theorem length_twosComplement (count : ℕ) (v : ℤ) : (twosComplement count v).length = count := by
  induction count generalizing v with
  | zero => rfl
  | succ count ih => simp [twosComplement, ih]

namespace RegisterFormat

theorem littleEndian_take (bytes : Bytes) (count : ℕ) :
    littleEndian (bytes.take count) = ∑ i ∈ Finset.range count, (bytes.getD i 0).toNat * 256 ^ i := by
  induction count generalizing bytes with
  | zero => simp [littleEndian]
  | succ count ih =>
    cases bytes with
    | nil => simp [littleEndian]
    | cons b bytes =>
      rw [List.take_succ_cons, littleEndian, ih, Finset.sum_range_succ', Finset.mul_sum, add_comm]
      congr 1
      · refine Finset.sum_congr rfl fun i _ => ?_
        rw [List.getD_cons_succ, pow_succ]
        ring
      · simp

/-- The bytes of an integer are its remainder: each is one by 256, and the bytes above it are those of the quotient. -/
theorem littleEndian_twosComplement (count : ℕ) (v : ℤ) :
    (littleEndian (twosComplement count v) : ℤ) ≡ v [ZMOD 256 ^ count] := by
  induction count generalizing v with
  | zero => simp [Int.modEq_one]
  | succ count ih =>
    have hbyte : ((UInt8.ofNat (v % 256).toNat).toNat : ℤ) = v % 256 := by
      rw [UInt8.toNat_ofNat']
      omega
    have hrest : (256 * littleEndian (twosComplement count (v / 256)) : ℤ) ≡ 256 * (v / 256)
        [ZMOD 256 ^ (count + 1)] := by
      rw [pow_succ']
      exact (ih (v / 256)).mul_left'
    calc (littleEndian (twosComplement (count + 1) v) : ℤ)
        = v % 256 + 256 * littleEndian (twosComplement count (v / 256)) := by
          rw [twosComplement, littleEndian, Nat.cast_add, Nat.cast_mul, hbyte, Nat.cast_ofNat]
      _ ≡ v % 256 + 256 * (v / 256) [ZMOD 256 ^ (count + 1)] := hrest.add_left _
      _ = v := Int.emod_add_mul_ediv v 256

/-! ### The range of a format -/

variable (f : RegisterFormat)

/-- The number that the leading bytes of a register stand for, the lowest first. Missing bytes count as zero. -/
def leading (bytes : Bytes) : ℕ := ∑ i ∈ Finset.range f.byteLength, (bytes.getD i 0).toNat * 256 ^ i

theorem bits_pos : 0 < f.bits := by
  unfold bits byteLength
  cases f.width <;> decide

theorem bits_le : f.bits ≤ 32 := by
  unfold bits byteLength
  cases f.width <;> decide

theorem bits_eq {bits : ℕ} {signed : Bool} {f : RegisterFormat} (h : ofBits bits signed = .ok f) : f.bits = bits := by
  unfold ofBits at h
  split at h <;> cases h <;> rfl

theorem two_pow_bits : (2 : ℤ) ^ f.bits = 2 * 2 ^ (f.bits - 1) := by
  rw [← pow_succ', Nat.sub_add_cancel f.bits_pos]

/-- A format has as many values as there are patterns of its bits. -/
theorem max_eq : f.max = f.min + 2 ^ f.bits - 1 := by
  have hbits := f.two_pow_bits
  unfold max min
  cases f.signed with
  | false => simp
  | true =>
    simp only [if_true, Nat.pow_eq, Nat.cast_pow, Nat.cast_ofNat]
    omega

/-- Integers of a format that agree modulo the number of its values are equal. -/
theorem eq_of_modEq {v w : ℤ} (hv : f.min ≤ v ∧ v ≤ f.max) (hw : f.min ≤ w ∧ w ≤ f.max)
    (h : v ≡ w [ZMOD 2 ^ f.bits]) : v = w := by
  have hmax := f.max_eq
  have hless : |w - v| < 2 ^ f.bits := abs_lt.mpr ⟨by omega, by omega⟩
  have hzero := Int.eq_zero_of_abs_lt_dvd h.dvd hless
  omega

/-! ### Decoding -/

/-- The bits that are decoded: those of the leading bytes that the mask selects. -/
theorem masked_eq (bytes : Bytes) (mask : ℕ) :
    littleEndian (bytes.take f.byteLength) &&& mask &&& f.fullMask = (f.leading bytes &&& mask) % 2 ^ f.bits := by
  rw [littleEndian_take]
  exact Nat.and_two_pow_sub_one_eq_mod _ _

theorem decode_eq (bytes : Bytes) (mask : ℕ) :
    f.decode bytes mask = if f.signed ∧ 2 ^ (f.bits - 1) ≤ (f.leading bytes &&& mask) % 2 ^ f.bits
      then (((f.leading bytes &&& mask) % 2 ^ f.bits : ℕ) : ℤ) - 2 ^ f.bits
      else ((f.leading bytes &&& mask) % 2 ^ f.bits : ℕ) := by
  have hpower : ((Nat.pow 2 f.bits : ℕ) : ℤ) = 2 ^ f.bits := by simp
  unfold decode
  dsimp only
  rw [masked_eq, hpower]
  rfl

example : decode ⟨.word, true⟩ [0xFE, 0xFF, 0x12] 0xFFFF = -2 := by decide

theorem decode_mem (bytes : Bytes) (mask : ℕ) : f.min ≤ f.decode bytes mask ∧ f.decode bytes mask ≤ f.max := by
  have hless : (((f.leading bytes &&& mask) % 2 ^ f.bits : ℕ) : ℤ) < 2 ^ f.bits := by
    exact_mod_cast Nat.mod_lt _ (Nat.two_pow_pos f.bits)
  have hbits := f.two_pow_bits
  have hmin : f.min = if f.signed then -2 ^ (f.bits - 1) else 0 := by simp [min]
  rw [max_eq, hmin, decode_eq]
  generalize (f.leading bytes &&& mask) % 2 ^ f.bits = n at hless ⊢
  have hhalf : 2 ^ (f.bits - 1) ≤ n ↔ (2 : ℤ) ^ (f.bits - 1) ≤ n := by exact_mod_cast Iff.rfl
  simp only [hhalf]
  cases f.signed with
  | false =>
    simp only [Bool.false_eq_true, false_and, if_false]
    omega
  | true =>
    simp only [true_and, if_true]
    split <;> omega

theorem mod_modEq (n bits : ℕ) : ((n % 2 ^ bits : ℕ) : ℤ) ≡ n [ZMOD 2 ^ bits] := by
  rw [Int.natCast_mod, Nat.cast_pow, Nat.cast_ofNat]
  exact Int.mod_modEq _ _

theorem decode_modEq (bytes : Bytes) (mask : ℕ) :
    f.decode bytes mask ≡ (f.leading bytes &&& mask : ℕ) [ZMOD 2 ^ f.bits] := by
  have hremainder := mod_modEq (f.leading bytes &&& mask) f.bits
  rw [decode_eq]
  split
  · exact Int.sub_modulus_modEq_iff.mpr hremainder
  · exact hremainder

end RegisterFormat

/-! ### Words of sixty-four bits -/

namespace Word

/-- A number in a word without a sign. -/
def unsigned? (n : ℕ) : Option UInt64 := if n < 2 ^ 64 then some (.ofNat n) else none

/-- An integer in a word with a sign. -/
def signed? (n : ℤ) : Option Int64 := if -2 ^ 63 ≤ n ∧ n < 2 ^ 63 then some (.ofInt n) else none

/-- A shift to the left within the width of a word, which loses no bit. -/
def shiftLeft? (x : UInt64) (count : ℕ) : Option UInt64 :=
  if count < 64 then unsigned? (x.toNat * 2 ^ count) else none

/-- The same in a word with a sign. -/
def shiftLeftSigned? (x : Int64) (count : ℕ) : Option Int64 :=
  if count < 64 then signed? (x.toInt * 2 ^ count) else none

/-- A difference of words with a sign. -/
def sub? (x y : Int64) : Option Int64 := signed? (x.toInt - y.toInt)

theorem unsigned?_of_lt {n : ℕ} (h : n < 2 ^ 64) : ∃ x, unsigned? n = some x ∧ x.toNat = n :=
  ⟨.ofNat n, if_pos h, UInt64.toNat_ofNat_of_lt' h⟩

theorem signed?_of_mem {n : ℤ} (h : -2 ^ 63 ≤ n) (h' : n < 2 ^ 63) : ∃ x, signed? n = some x ∧ x.toInt = n :=
  ⟨.ofInt n, if_pos ⟨h, h'⟩, Int64.toInt_ofInt_of_le h h'⟩

theorem shiftLeft?_one {count : ℕ} (h : count < 64) : ∃ x, shiftLeft? 1 count = some x ∧ x.toNat = 2 ^ count := by
  rw [shiftLeft?, if_pos h]
  obtain ⟨x, hx, hvalue⟩ := unsigned?_of_lt (Nat.pow_lt_pow_right (by omega : 1 < 2) h)
  exact ⟨x, by simpa using hx, hvalue⟩

theorem shiftLeftSigned?_one {count : ℕ} (h : count < 63) :
    ∃ x, shiftLeftSigned? 1 count = some x ∧ x.toInt = 2 ^ count ∧ 0 < x.toInt := by
  rw [shiftLeftSigned?, if_pos (by omega)]
  have hpositive : (0 : ℤ) < 2 ^ count := by positivity
  have hless : (2 : ℤ) ^ count < 2 ^ 63 := pow_lt_pow_right₀ (by omega) h
  obtain ⟨x, hx, hvalue⟩ := signed?_of_mem (by omega) hless
  exact ⟨x, by simpa using hx, hvalue, hvalue.symm ▸ hpositive⟩

/-- A byte is put to its place above the bytes that have been collected. -/
def place (collected : UInt64) (b : UInt8 × ℕ) : Option UInt64 := do
  let placed ← shiftLeft? b.1.toUInt64 (8 * b.2)
  return collected ||| placed

theorem place_of_lt {collected : UInt64} {k : ℕ} (h : collected.toNat < 256 ^ k) (hk : k < 8) (b : UInt8) :
    ∃ x, place collected (b, k) = some x ∧ x.toNat = collected.toNat + 256 ^ k * b.toNat := by
  have hpower : (256 : ℕ) ^ k = 2 ^ (8 * k) := (pow_mul 2 8 k).symm
  have hb : b.toNat < 256 := b.toNat_lt
  have hfits : b.toUInt64.toNat * 2 ^ (8 * k) < 2 ^ 64 := by
    rw [UInt8.toNat_toUInt64]
    calc b.toNat * 2 ^ (8 * k) < 2 ^ 8 * 2 ^ (8 * k) := Nat.mul_lt_mul_of_pos_right hb (Nat.two_pow_pos _)
      _ = 2 ^ (8 * k + 8) := by rw [pow_add, mul_comm]
      _ ≤ 2 ^ 64 := Nat.pow_le_pow_right (by omega) (by omega)
  obtain ⟨x, hx, hvalue⟩ := unsigned?_of_lt hfits
  refine ⟨collected ||| x, ?_, ?_⟩
  · rw [place, shiftLeft?, if_pos (by omega), hx]
    rfl
  -- The byte lies above all bits that have been collected, so putting it there is adding it.
  · rw [hpower] at h ⊢
    rw [UInt64.toNat_or, hvalue, UInt8.toNat_toUInt64, mul_comm, Nat.or_comm, ← Nat.two_pow_add_eq_or_of_lt h, add_comm]

/-- Bytes that are put together in a word, each in its place, are the number that they stand for. -/
theorem foldlM_place (bytes : Bytes) {collected : UInt64} {k : ℕ} (h : collected.toNat < 256 ^ k)
    (hk : k + bytes.length ≤ 8) :
    ∃ x, (bytes.zipIdx k).foldlM place collected = some x ∧
      x.toNat = collected.toNat + 256 ^ k * RegisterFormat.littleEndian bytes := by
  induction bytes generalizing collected k with
  | nil => exact ⟨collected, rfl, by simp [RegisterFormat.littleEndian]⟩
  | cons b bytes ih =>
    rw [List.length_cons] at hk
    obtain ⟨placed, hplace, hplaced⟩ := place_of_lt h (by omega) b
    have hless : placed.toNat < 256 ^ (k + 1) := by
      have hb : b.toNat < 256 := b.toNat_lt
      rw [hplaced, pow_succ]
      nlinarith
    obtain ⟨x, hx, hvalue⟩ := ih hless (by omega)
    refine ⟨x, ?_, ?_⟩
    · rw [List.zipIdx_cons, List.foldlM_cons, hplace]
      exact hx
    · rw [hvalue, hplaced, RegisterFormat.littleEndian, pow_succ]
      ring

end Word

namespace RegisterFormat

open Word

/-- The mask of all bits of a value, computed in words. -/
def fullMaskInWords (f : RegisterFormat) : Option UInt64 := do
  let power ← shiftLeft? 1 f.bits
  unsigned? (power.toNat - 1)

/-- The least value of a format, computed in words. -/
def minInWords (f : RegisterFormat) : Option Int64 :=
  if f.signed then do sub? 0 (← shiftLeftSigned? 1 (f.bits - 1)) else some 0

/-- The greatest value of a format, computed in words. -/
def maxInWords (f : RegisterFormat) : Option Int64 := do
  sub? (← shiftLeftSigned? 1 (if f.signed then f.bits - 1 else f.bits)) 1

/-- A pattern as an integer: where the highest bit of a signed format is set, the next power of two is subtracted. -/
def signExtended (f : RegisterFormat) (pattern : UInt64) : Option Int64 := do
  let highest ← shiftLeft? 1 (f.bits - 1)
  let value ← signed? pattern.toNat
  let modulus ← shiftLeftSigned? 1 f.bits
  if f.signed ∧ pattern &&& highest ≠ 0 then sub? value modulus else some value

/-- Decoding step by step in words: the bytes are put to their places, the masks are applied, and the sign is extended.
If a step leaves the range of its word, there is no result. -/
def decodeInWords (f : RegisterFormat) (bytes : Bytes) (mask : UInt64) : Option Int64 := do
  let raw ← (bytes.take f.byteLength).zipIdx.foldlM place 0
  let all ← f.fullMaskInWords
  f.signExtended (raw &&& mask &&& all)

variable (f : RegisterFormat)

theorem fullMaskInWords_eq : ∃ x, f.fullMaskInWords = some x ∧ x.toNat = f.fullMask := by
  have hbits := f.bits_le
  obtain ⟨power, hpower, hvalue⟩ := shiftLeft?_one (show f.bits < 64 by omega)
  obtain ⟨x, hx, hmask⟩ := unsigned?_of_lt (n := power.toNat - 1) (by have := power.toNat_lt; omega)
  refine ⟨x, ?_, ?_⟩
  · rw [fullMaskInWords, hpower]
    exact hx
  · rw [hmask, hvalue]
    rfl

theorem minInWords_eq : ∃ x, f.minInWords = some x ∧ x.toInt = f.min := by
  have hbits := f.bits_le
  unfold minInWords min
  cases f.signed with
  | false => exact ⟨0, rfl, rfl⟩
  | true =>
    obtain ⟨power, hpower, hvalue, hpositive⟩ := shiftLeftSigned?_one (show f.bits - 1 < 63 by omega)
    have hless := power.toInt_lt
    obtain ⟨x, hx, hmin⟩ := signed?_of_mem (n := 0 - power.toInt) (by omega) (by omega)
    refine ⟨x, ?_, ?_⟩
    · simp only [if_true, hpower]
      exact hx
    · simp [hmin, hvalue]

theorem maxInWords_eq : ∃ x, f.maxInWords = some x ∧ x.toInt = f.max := by
  have hbits := f.bits_le
  have hcount : (if f.signed then f.bits - 1 else f.bits) < 63 := by split <;> omega
  obtain ⟨power, hpower, hvalue, hpositive⟩ := shiftLeftSigned?_one hcount
  have hless := power.toInt_lt
  obtain ⟨x, hx, hmax⟩ := signed?_of_mem (n := power.toInt - 1) (by omega) (by omega)
  refine ⟨x, ?_, ?_⟩
  · rw [maxInWords, hpower]
    exact hx
  · rw [hmax, hvalue, max]
    cases f.signed <;> simp

/-- The highest bit of a pattern is set if the pattern is at least the power of two that this bit stands for. -/
theorem and_highest_ne_zero_iff {n : ℕ} (h : n < 2 ^ f.bits) :
    n &&& 2 ^ (f.bits - 1) ≠ 0 ↔ 2 ^ (f.bits - 1) ≤ n := by
  rw [← Nat.sub_add_cancel f.bits_pos] at h
  rw [Nat.and_two_pow]
  constructor
  · intro hset
    by_contra hless
    rw [Nat.testBit_lt_two_pow (not_le.mp hless)] at hset
    exact hset (Nat.zero_mul _)
  · intro hle
    rw [Nat.testBit_of_two_pow_le_and_two_pow_add_one_gt hle h]
    simp

theorem signExtended_eq {pattern : UInt64} (h : pattern.toNat < 2 ^ f.bits) :
    ∃ x, f.signExtended pattern = some x ∧
      x.toInt = if f.signed ∧ 2 ^ (f.bits - 1) ≤ pattern.toNat then (pattern.toNat : ℤ) - 2 ^ f.bits
        else pattern.toNat := by
  have hbits := f.bits_le
  have hsmall : 2 ^ f.bits ≤ 2 ^ 32 := Nat.pow_le_pow_right (by omega) hbits
  obtain ⟨highest, hhighest, hpower⟩ := shiftLeft?_one (show f.bits - 1 < 64 by omega)
  obtain ⟨value, hvalue, hpattern⟩ := signed?_of_mem (n := pattern.toNat) (by omega) (by omega)
  obtain ⟨modulus, hmodulus, hsize, hpositive⟩ := shiftLeftSigned?_one (show f.bits < 63 by omega)
  have hset : pattern &&& highest ≠ 0 ↔ 2 ^ (f.bits - 1) ≤ pattern.toNat := by
    rw [← f.and_highest_ne_zero_iff h, ← hpower, ← UInt64.toNat_and, ne_eq, ne_eq, ← UInt64.toNat_inj,
      UInt64.toNat_zero]
  have hsteps : ∃ x, (if f.signed ∧ pattern &&& highest ≠ 0 then sub? value modulus else some value) = some x ∧
      x.toInt = if f.signed ∧ 2 ^ (f.bits - 1) ≤ pattern.toNat then (pattern.toNat : ℤ) - 2 ^ f.bits
        else pattern.toNat := by
    simp only [hset]
    split
    · have hfits : modulus.toInt ≤ 2 ^ 32 := by
        rw [hsize]
        exact_mod_cast hsmall
      obtain ⟨x, hx, hdifference⟩ := signed?_of_mem (n := value.toInt - modulus.toInt) (by omega) (by omega)
      exact ⟨x, hx, by rw [hdifference, hpattern, hsize]⟩
    · exact ⟨value, rfl, hpattern⟩
  obtain ⟨x, hx, hresult⟩ := hsteps
  refine ⟨x, ?_, hresult⟩
  exact Option.bind_eq_some_iff.mpr ⟨highest, hhighest, Option.bind_eq_some_iff.mpr ⟨value, hvalue,
    Option.bind_eq_some_iff.mpr ⟨modulus, hmodulus, hx⟩⟩⟩

/-- No step of decoding leaves the range of its word, and the word that comes out is the decoded integer. -/
theorem decodeInWords_eq (bytes : Bytes) (mask : UInt64) :
    ∃ x, f.decodeInWords bytes mask = some x ∧ x.toInt = f.decode bytes mask.toNat := by
  have hlength : 0 + (bytes.take f.byteLength).length ≤ 8 := by
    have hbytes : 8 * f.byteLength ≤ 32 := f.bits_le
    rw [List.length_take]
    omega
  have hnothing : (0 : UInt64).toNat < 256 ^ 0 := by decide
  obtain ⟨raw, hraw, hcollected⟩ := foldlM_place (bytes.take f.byteLength) hnothing hlength
  obtain ⟨all, hall, hfull⟩ := f.fullMaskInWords_eq
  have hpattern : (raw &&& mask &&& all).toNat = (f.leading bytes &&& mask.toNat) % 2 ^ f.bits := by
    rw [UInt64.toNat_and, UInt64.toNat_and, hcollected, hfull, ← masked_eq]
    simp
  have hless : (raw &&& mask &&& all).toNat < 2 ^ f.bits := by
    rw [hpattern]
    exact Nat.mod_lt _ (Nat.two_pow_pos _)
  obtain ⟨x, hx, hvalue⟩ := f.signExtended_eq hless
  refine ⟨x, ?_, ?_⟩
  · exact Option.bind_eq_some_iff.mpr ⟨raw, hraw, Option.bind_eq_some_iff.mpr ⟨all, hall, hx⟩⟩
  · rw [hvalue, decode_eq, hpattern]

theorem leading_twosComplement (v : ℤ) (further : Bytes) :
    ((f.leading (twosComplement f.byteLength v ++ further) &&& f.fullMask : ℕ) : ℤ) ≡ v [ZMOD 2 ^ f.bits] := by
  have hbytes : (2 : ℤ) ^ f.bits = 256 ^ f.byteLength := pow_mul 2 8 f.byteLength
  have hleading : f.leading (twosComplement f.byteLength v ++ further) =
      littleEndian (twosComplement f.byteLength v) := by
    rw [leading, ← littleEndian_take, List.take_left' (length_twosComplement f.byteLength v)]
  have hmask : littleEndian (twosComplement f.byteLength v) &&& f.fullMask =
      littleEndian (twosComplement f.byteLength v) % 2 ^ f.bits := Nat.and_two_pow_sub_one_eq_mod _ _
  rw [hleading, hmask]
  refine (mod_modEq _ _).trans ?_
  rw [hbytes]
  exact littleEndian_twosComplement f.byteLength v

/-- What is decoded is the only integer of the format that agrees with the leading bytes under the mask, modulo the
number of its values, and no step on the way leaves the range of its word. So every integer of the format comes back
from its bytes. -/
theorem decode_unique {bits : ℕ} {signed : Bool} {f : RegisterFormat} (h : ofBits bits signed = .ok f) :
    (∀ (bytes : Bytes) (mask : UInt64),
      (∀ v : ℤ, f.min ≤ v ∧ v ≤ f.max ∧ v ≡ (f.leading bytes &&& mask.toNat : ℕ) [ZMOD 2 ^ bits] ↔
        v = f.decode bytes mask.toNat) ∧
      ∃ x, f.decodeInWords bytes mask = some x ∧ x.toInt = f.decode bytes mask.toNat) ∧
    ((∃ x, f.fullMaskInWords = some x ∧ x.toNat = f.fullMask) ∧
      (∃ x, f.minInWords = some x ∧ x.toInt = f.min) ∧ ∃ x, f.maxInWords = some x ∧ x.toInt = f.max) ∧
    ∀ v, f.contains v = true → ∀ further,
      f.decode (twosComplement f.byteLength v ++ further) f.fullMask = v := by
  have hunique : ∀ bytes mask (v : ℤ),
      f.min ≤ v ∧ v ≤ f.max ∧ v ≡ (f.leading bytes &&& mask : ℕ) [ZMOD 2 ^ bits] ↔ v = f.decode bytes mask := by
    intro bytes mask v
    have hmem := f.decode_mem bytes mask
    have hmod := f.decode_modEq bytes mask
    rw [← bits_eq h]
    constructor
    · rintro ⟨hmin, hmax, hv⟩
      exact f.eq_of_modEq ⟨hmin, hmax⟩ hmem (hv.trans hmod.symm)
    · rintro rfl
      exact ⟨hmem.1, hmem.2, hmod⟩
  refine ⟨fun bytes mask => ⟨hunique bytes mask.toNat, f.decodeInWords_eq bytes mask⟩,
    ⟨f.fullMaskInWords_eq, f.minInWords_eq, f.maxInWords_eq⟩, ?_⟩
  intro v hv further
  obtain ⟨hmin, hmax⟩ : f.min ≤ v ∧ v ≤ f.max := by simpa [contains] using hv
  refine ((hunique _ _ v).mp ⟨hmin, hmax, ?_⟩).symm
  rw [← bits_eq h]
  exact (f.leading_twosComplement v further).symm

/-- The sign bit alone is the least integer of a signed word. -/
theorem signBit_decoded :
    ofBits 16 true = .ok ⟨.word, true⟩ ∧ decode ⟨.word, true⟩ [0x34, 0x92, 0xFF] 0x8000 = -32768 := by
  have hformat : ofBits 16 true = .ok ⟨.word, true⟩ := rfl
  have hunique := ((decode_unique hformat).1 [0x34, 0x92, 0xFF] 0x8000).1
  exact ⟨hformat, ((hunique (-32768)).mp ⟨by decide, by decide, by decide⟩).symm⟩

end RegisterFormat
end PowerRails
