/-! # Tables

A finite map from keys to values, kept as a list of entries. Storing a value under a key removes what was
stored there before, so a key has at most one entry. `get?_insert` and `get?_erase` say all that a reader of
a table can observe. -/

namespace PowerRails

/-- A finite map; the newest entry stands first. -/
structure Table (κ α : Type) where
  entries : List (κ × α) := []
deriving DecidableEq, Repr

namespace Table

variable {κ α : Type} [DecidableEq κ]

instance : Inhabited (Table κ α) := ⟨{}⟩

/-- The value at a key. -/
def get? (t : Table κ α) (key : κ) : Option α := t.entries.lookup key

def contains (t : Table κ α) (key : κ) : Bool := (t.get? key).isSome

/-- Takes away the entry at a key. -/
def erase (t : Table κ α) (key : κ) : Table κ α := ⟨t.entries.filter fun e => e.1 ≠ key⟩

/-- Store `value` under `key`, in place of what was there. -/
def insert (t : Table κ α) (key : κ) (value : α) : Table κ α := ⟨(key, value) :: (t.erase key).entries⟩

/-- Store every entry of `u`, in place of entries of `t` with the same key. -/
def extend (t u : Table κ α) : Table κ α := u.entries.foldr (fun e t => t.insert e.1 e.2) t

def size (t : Table κ α) : Nat := t.entries.length

omit [DecidableEq κ] in
/-- The entries in the order `le` of their keys. -/
def sorted (t : Table κ α) (le : κ → κ → Bool) : List (κ × α) := t.entries.mergeSort fun a b => le a.1 b.1

@[simp] theorem get?_empty (key : κ) : ({} : Table κ α).get? key = none := rfl

theorem lookup_filter_ne (key other : κ) :
    ∀ entries : List (κ × α), (entries.filter fun e => e.1 ≠ key).lookup other =
      if other = key then none else entries.lookup other
  | [] => by simp
  | (k, a) :: rest => by
    have ih := lookup_filter_ne key other rest
    by_cases hk : k = key
    · subst hk
      simp only [List.filter_cons, ne_eq, not_true_eq_false, decide_false, Bool.false_eq_true, if_false]
      rw [ih]
      by_cases ho : other = k
      · simp [ho]
      · simp [ho, List.lookup_cons, beq_eq_false_iff_ne.mpr ho]
    · simp only [List.filter_cons, ne_eq, hk, not_false_eq_true, decide_true, if_true, List.lookup_cons]
      rw [ih]
      by_cases ho : other = k
      · subst ho
        simp [hk]
      · simp [beq_eq_false_iff_ne.mpr ho]

theorem get?_erase (t : Table κ α) (key other : κ) :
    (t.erase key).get? other = if other = key then none else t.get? other := lookup_filter_ne key other t.entries

theorem get?_insert (t : Table κ α) (key other : κ) (value : α) :
    (t.insert key value).get? other = if other = key then some value else t.get? other := by
  by_cases h : other = key
  · simp [insert, get?, h]
  · have := get?_erase t key other
    simp only [get?] at this
    simp [insert, get?, List.lookup_cons, beq_eq_false_iff_ne.mpr h, h, this]

theorem get?_insert_self (t : Table κ α) (key : κ) (value : α) : (t.insert key value).get? key = some value := by
  simp [get?_insert]

theorem get?_insert_of_ne (t : Table κ α) {key other : κ} (h : other ≠ key) (value : α) :
    (t.insert key value).get? other = t.get? other := by
  simp [get?_insert, h]

theorem contains_iff_mem {t : Table κ α} {key : κ} : t.contains key = true ↔ key ∈ t.entries.map (·.1) := by
  simp only [contains, get?, List.lookup_isSome_iff, List.mem_map, beq_iff_eq]
  constructor
  · rintro ⟨e, he, rfl⟩
    exact ⟨e, he, rfl⟩
  · rintro ⟨e, he, rfl⟩
    exact ⟨e, he, rfl⟩

theorem contains_eq_false_iff {t : Table κ α} {key : κ} : t.contains key = false ↔ t.get? key = none := by
  rw [contains, Option.isSome_eq_false_iff, Option.isNone_iff_eq_none]

/-- Under a new key nothing is replaced. -/
theorem insert_of_new {t : Table κ α} {key : κ} (h : t.contains key = false) (value : α) :
    t.insert key value = ⟨(key, value) :: t.entries⟩ := by
  have hkept : (t.entries.filter fun e => e.1 ≠ key) = t.entries := by
    refine List.filter_eq_self.mpr fun e he => decide_eq_true fun heq => ?_
    have hmem : t.contains key = true := contains_iff_mem.mpr (heq ▸ List.mem_map_of_mem he)
    exact Bool.noConfusion (h.symm.trans hmem)
  rw [insert, erase, hkept]

theorem extend_insert_of_new (t : Table κ α) {u : Table κ α} {key : κ} (h : u.contains key = false) (value : α) :
    t.extend (u.insert key value) = (t.extend u).insert key value := by
  rw [insert_of_new h]
  rfl

theorem get?_extend (t u : Table κ α) (key : κ) : (t.extend u).get? key = (u.get? key).or (t.get? key) := by
  obtain ⟨entries⟩ := u
  induction entries with
  | nil => rfl
  | cons e entries ih =>
    obtain ⟨k, a⟩ := e
    show ((t.extend ⟨entries⟩).insert k a).get? key = _
    rw [get?_insert, ih]
    by_cases h : key = k
    · simp [get?, h]
    · simp [get?, List.lookup_cons, beq_eq_false_iff_ne.mpr h, h]

theorem contains_extend (t u : Table κ α) (key : κ) : (t.extend u).contains key = (u.contains key || t.contains key) := by
  rw [contains, get?_extend, Option.isSome_or]
  rfl

end Table
end PowerRails
