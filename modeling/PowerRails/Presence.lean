import PowerRails.Table

/-! # Presence

Whether a device is there is found out once per cycle, that is, once in every top-level call. Results carry the
cycle that produced them, and answer questions of that cycle only; a result of an earlier cycle is still the
last one known. -/

namespace PowerRails

/-- One top-level call. -/
abbrev Cycle := Nat

/-- A presence result and the cycle that produced it. -/
structure Presence where
  present : Bool
  cycle : Cycle
deriving DecidableEq, Repr

/-- The presence results of devices by identifier. -/
structure PresenceCache where
  results : Table String Presence := {}
deriving DecidableEq, Repr

namespace PresenceCache

/-- The result of `device` in `cycle`. -/
def get? (c : PresenceCache) (device : String) (cycle : Cycle) : Option Bool :=
  ((c.results.get? device).filter fun p => p.cycle == cycle).map (·.present)

/-- The last result of `device`, of whatever cycle. -/
def lastKnown? (c : PresenceCache) (device : String) : Option Bool := (c.results.get? device).map (·.present)

/-- Keeps a result, in place of any earlier one of the device. -/
def insert (c : PresenceCache) (device : String) (present : Bool) (cycle : Cycle) : PresenceCache :=
  ⟨c.results.insert device ⟨present, cycle⟩⟩

theorem get?_eq_some_iff {c : PresenceCache} {device : String} {cycle : Cycle} {present : Bool} :
    c.get? device cycle = some present ↔ c.results.get? device = some ⟨present, cycle⟩ := by
  unfold get?
  rcases c.results.get? device with _ | ⟨p, k⟩
  · simp
  · by_cases h : k = cycle <;> simp [h, Option.filter]

theorem get?_insert (c : PresenceCache) (device other : String) (present : Bool) (cycle cycle' : Cycle) :
    (c.insert device present cycle).get? other cycle' =
      if other = device then if cycle = cycle' then some present else none else c.get? other cycle' := by
  by_cases h : other = device
  · by_cases hc : cycle = cycle' <;> simp [get?, insert, Table.get?_insert, h, hc, Option.filter]
  · simp [get?, insert, Table.get?_insert, h]

theorem lastKnown?_insert (c : PresenceCache) (device other : String) (present : Bool) (cycle : Cycle) :
    (c.insert device present cycle).lastKnown? other =
      if other = device then some present else c.lastKnown? other := by
  by_cases h : other = device <;> simp [lastKnown?, insert, Table.get?_insert, h]

end PresenceCache
end PowerRails
