import Mathlib.Data.List.Nodup
import PowerRails.Environment.Recording

/-! # Keys of captures

A capture is kept under the first key of its device and register that is not taken. There always is one,
because numbering a key never gives the same key twice; and the keys of one device are never keys of another,
whatever the devices are called, because the register and the number can be read off from the end of a key. -/

namespace PowerRails

namespace Captures

/-- The key of the first capture of a register. -/
def base (device : String) (register : UInt8) : String := s!"{device}_register_{Hex.byte register}"

/-- A key under which captures of the device are kept. -/
def IsKeyOf (device key : String) : Prop := ∃ register n, key = Captures.key (base device register) n

/-! ### Reading keys from the end -/

/-- What sets the later captures of a register apart. -/
def numbering (n : Nat) : List Char := if n ≤ 1 then [] else '_' :: Nat.toDigits 10 n

theorem toList_key (b : String) (n : Nat) : (Captures.key b n).toList = b.toList ++ numbering n := by
  unfold Captures.key numbering
  by_cases h : n ≤ 1 <;> simp [h]

/-- The last underscore of a text, and so what stands before and after it, can be read off. -/
theorem split_underscore {x y v w : List Char} (hv : '_' ∉ v) (hw : '_' ∉ w) (h : x ++ '_' :: v = y ++ '_' :: w) :
    x = y ∧ v = w := by
  rcases List.append_eq_append_iff.mp h with ⟨c, rfl, hc⟩ | ⟨c, rfl, hc⟩
  · cases c with
    | nil => simpa using hc
    | cons z c =>
      rw [List.cons_append, List.cons.injEq] at hc
      exact absurd (hc.2 ▸ List.mem_append_right c List.mem_cons_self) hv
  · cases c with
    | nil => simpa [eq_comm] using hc
    | cons z c =>
      rw [List.cons_append, List.cons.injEq] at hc
      exact absurd (hc.2 ▸ List.mem_append_right c List.mem_cons_self) hw

theorem underscore_notMem_byte (register : UInt8) : '_' ∉ (Hex.byte register).toList := by
  have all : ∀ n < 256, '_' ∉ Hex.padded 2 ((Hex.digits n).map Char.toUpper) := by decide +kernel
  simp [Hex.byte, Hex.upper, all register.toNat register.toNat_lt]

theorem x_mem_byte (register : UInt8) : 'x' ∈ (Hex.byte register).toList := by simp [Hex.byte, Hex.upper]

theorem toList_base (device : String) (register : UInt8) :
    (base device register).toList =
      (device.toList ++ "_register".toList) ++ '_' :: (Hex.byte register).toList := by
  show (device ++ "_register_" ++ Hex.byte register).toList = _
  simp

theorem byte_inj {r q : UInt8} (h : Hex.byte r = Hex.byte q) : r = q := by
  let digit (c : Char) : Nat := if c.toNat < 'A'.toNat then c.toNat - '0'.toNat else c.toNat - 'A'.toNat + 10
  let value (cs : List Char) : Nat := cs.foldl (fun v c => 16 * v + digit c) 0
  have read : ∀ n < 256, value (Hex.padded 2 ((Hex.digits n).map Char.toUpper)) = n := by decide +kernel
  have htext := congrArg String.toList h
  simp only [Hex.byte, Hex.upper, String.toList_append, String.toList_ofList] at htext
  have hvalue := congrArg value (List.append_cancel_left htext)
  rw [read _ r.toNat_lt, read _ q.toNat_lt] at hvalue
  exact UInt8.toNat_inj.mp hvalue

theorem base_inj {d e : String} {r q : UInt8} (h : base d r = base e q) : d = e ∧ r = q := by
  have h := congrArg String.toList h
  rw [toList_base, toList_base] at h
  obtain ⟨hdevice, hregister⟩ := split_underscore (underscore_notMem_byte r) (underscore_notMem_byte q) h
  exact ⟨String.toList_inj.mp (List.append_cancel_right hdevice), byte_inj (String.toList_inj.mp hregister)⟩

/-- No plain key is a numbered one: a number has no `x`. -/
theorem base_ne_numbered {d : String} {r : UInt8} {x : List Char} {n : Nat} :
    (base d r).toList ≠ x ++ '_' :: Nat.toDigits 10 n := by
  intro h
  rw [toList_base] at h
  have := (split_underscore (underscore_notMem_byte r) Nat.underscore_not_in_toDigits h).2
  have hx : 'x' ∈ Nat.toDigits 10 n := this ▸ x_mem_byte r
  exact absurd (Nat.isDigit_of_mem_toDigits (by decide) (by decide) hx) (by decide)

/-- The plain key can be read off from a numbered one. -/
theorem base_eq_of_key_eq {d e : String} {r q : UInt8} {m n : Nat}
    (h : Captures.key (base d r) m = Captures.key (base e q) n) : base d r = base e q := by
  have h := congrArg String.toList h
  simp only [toList_key, numbering] at h
  by_cases hm : m ≤ 1 <;> by_cases hn : n ≤ 1 <;> simp only [hm, hn, if_true, if_false, List.append_nil] at h
  · exact String.toList_inj.mp h
  · exact absurd h base_ne_numbered
  · exact absurd h.symm base_ne_numbered
  · have := (split_underscore Nat.underscore_not_in_toDigits Nat.underscore_not_in_toDigits h).1
    exact String.toList_inj.mp this

theorem IsKeyOf.unique {d e key : String} (hd : IsKeyOf d key) (he : IsKeyOf e key) : d = e := by
  obtain ⟨r, m, rfl⟩ := hd
  obtain ⟨q, n, h⟩ := he
  exact (base_inj (base_eq_of_key_eq h)).1

theorem key_inj {b : String} {m n : Nat} (hm : 1 ≤ m) (hn : 1 ≤ n) (h : Captures.key b m = Captures.key b n) :
    m = n := by
  have h := congrArg String.toList h
  rw [toList_key, toList_key] at h
  have h := List.append_cancel_left h
  unfold numbering at h
  by_cases hm' : m ≤ 1 <;> by_cases hn' : n ≤ 1 <;> simp only [hm', hn', if_true, if_false] at h
  · omega
  · cases h
  · cases h
  · have := congrArg (fun ds => Nat.ofDigitChars 10 ds 0) (List.cons.inj h).2
    simpa [Nat.ofDigitChars_ten_toDigits] using this

/-- Captures of different registers, and different captures of one register, have different keys. -/
theorem numbered_inj {d e : String} {r q : UInt8} {m n : Nat}
    (h : Captures.key (base d r) (m + 1) = Captures.key (base e q) (n + 1)) : d = e ∧ r = q ∧ m = n := by
  have hbase := base_eq_of_key_eq h
  obtain ⟨hdevice, hregister⟩ := base_inj hbase
  rw [hbase] at h
  have hnumber := key_inj (Nat.succ_pos m) (Nat.succ_pos n) h
  exact ⟨hdevice, hregister, by omega⟩

/-! ### Choosing a key -/

/-- A key that is taken neither in one's own captures nor in earlier ones. -/
def Free (own earlier : Captures) (key : String) : Prop :=
  own.contains key = false ∧ earlier.contains key = false

/-- Among one number more than there are keys taken, one gives a free key. -/
theorem exists_free (own earlier : Captures) (b : String) :
    ∃ i < own.size + earlier.size + 1, Free own earlier (Captures.key b (i + 1)) := by
  by_contra hnone
  have taken : ∀ i < own.size + earlier.size + 1,
      Captures.key b (i + 1) ∈ own.entries.map (·.1) ++ earlier.entries.map (·.1) := by
    intro i hi
    rw [List.mem_append, ← Table.contains_iff_mem, ← Table.contains_iff_mem]
    by_contra hfree
    rw [not_or, Bool.not_eq_true, Bool.not_eq_true] at hfree
    exact hnone ⟨i, hi, hfree⟩
  let keys := (List.range (own.size + earlier.size + 1)).map fun i => Captures.key b (i + 1)
  have hnodup : keys.Nodup := by
    refine List.Nodup.map_on (fun i _ j _ h => ?_) List.nodup_range
    have := key_inj (by omega) (by omega) h
    omega
  have hsub : keys ⊆ own.entries.map (·.1) ++ earlier.entries.map (·.1) := by
    intro k hk
    obtain ⟨i, hi, rfl⟩ := List.mem_map.mp hk
    exact taken i (List.mem_range.mp hi)
  have hle := hnodup.length_le_of_subset hsub
  simp only [keys, List.length_map, List.length_range, List.length_append, Table.size] at hle
  omega

/-- The key that is chosen has the least number, from one on, that gives a free key. -/
theorem freeKey_spec (own earlier : Captures) (b : String) :
    ∃ n, Captures.freeKey own earlier b = Captures.key b (n + 1) ∧ Free own earlier (Captures.key b (n + 1)) ∧
      ∀ m < n, ¬Free own earlier (Captures.key b (m + 1)) := by
  let free (n : Nat) : Bool := !own.contains (Captures.key b n) && !earlier.contains (Captures.key b n)
  have free_iff : ∀ n, free n = true ↔ Free own earlier (Captures.key b n) := by simp [free, Free]
  have hfind : Captures.freeKey own earlier b =
      Captures.key b ((((List.range (own.size + earlier.size + 1)).map (· + 1)).find? free).getD
        (own.size + earlier.size + 1)) := rfl
  rw [List.find?_map] at hfind
  cases hn : (List.range (own.size + earlier.size + 1)).find? (free ∘ (· + 1)) with
  | none =>
    obtain ⟨i, hi, hfree⟩ := exists_free own earlier b
    have := List.find?_range_eq_none.mp hn i hi
    simp [(free_iff (i + 1)).mpr hfree] at this
  | some n =>
    obtain ⟨hfree, -, hleast⟩ := List.find?_range_eq_some.mp hn
    refine ⟨n, by rw [hfind, hn]; rfl, (free_iff _).mp hfree, fun m hm hf => ?_⟩
    have := hleast m hm
    simp [(free_iff (m + 1)).mpr hf] at this

theorem freeKey_free (own earlier : Captures) (b : String) : Free own earlier (Captures.freeKey own earlier b) := by
  obtain ⟨n, h, hfree, -⟩ := freeKey_spec own earlier b
  exact h ▸ hfree

/-- The choice depends only on which of the keys of this register are taken. -/
theorem freeKey_congr {own own' earlier earlier' : Captures} {b : String}
    (h : ∀ n, Free own earlier (Captures.key b n) ↔ Free own' earlier' (Captures.key b n)) :
    Captures.freeKey own earlier b = Captures.freeKey own' earlier' b := by
  obtain ⟨n, hn, hfree, hleast⟩ := freeKey_spec own earlier b
  obtain ⟨n', hn', hfree', hleast'⟩ := freeKey_spec own' earlier' b
  have hle : n' ≤ n := Nat.not_lt.mp fun hlt => hleast' n hlt ((h _).mp hfree)
  have hge : n ≤ n' := Nat.not_lt.mp fun hlt => hleast n' hlt ((h _).mpr hfree')
  rw [hn, hn', Nat.le_antisymm hge hle]

end Captures
end PowerRails
