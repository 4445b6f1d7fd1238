import PowerRails.Proofs.Likeness

/-! # Surroundings

A device on a bus of its own, and everything around it. The hardware is in two parts: the buses of all other
devices work on one part, and the bus of this device on the other. Its surroundings can be given without it,
with gaps where it goes, and any device may be put there. -/

namespace PowerRails

/-- The device on another bus. -/
def Device.withBus {σ τ : Type} (d : Device σ) (bus : Bus τ) : Device τ where
  id := d.id
  isRegulator := d.isRegulator
  inventoryPath := d.inventoryPath
  bus := bus
  detection := d.detection
  configuration := d.configuration
  monitoring := d.monitoring
  rails := d.rails

section
variable {ρ α β : Type}

/-- A device on the part of the hardware that is there for all others. -/
def Device.onRest (d : Device ρ) : Device (ρ × α) := d.withBus (d.bus.within Prod.fst fun h rest => (rest, h.2))

/-- A device on the part of the hardware that is its own. -/
def Device.onOwn (d : Device α) : Device (ρ × α) := d.withBus (d.bus.within Prod.snd fun h own => (h.1, own))

/-- A chassis with devices and gaps. -/
structure Rack (ρ : Type) where
  id : String
  inventoryPath : String
  slots : List (Option (Device ρ))

/-- What is put into a slot: its device, or the one that fills the gaps. -/
def Device.fill (a : Device α) : Option (Device ρ) → Device (ρ × α)
  | some d => d.onRest
  | none => a.onOwn

/-- The chassis with a device in its gaps. -/
def Rack.filled (r : Rack ρ) (a : Device α) : Chassis (ρ × α) := ⟨r.id, r.inventoryPath, r.slots.map a.fill⟩

/-- Everything in a plant but one device. -/
structure Surroundings (ρ : Type) where
  racks : List (Rack ρ)
  rules : List Rule

namespace Surroundings

/-- The plant with a device in the gaps. -/
def plant (w : Surroundings ρ) (a : Device α) : Plant (ρ × α) := ⟨w.racks.map (·.filled a), w.rules⟩

/-- All slots, in the order in which they are visited. -/
def slots (w : Surroundings ρ) : List (Option (Device ρ)) := w.racks.flatMap (·.slots)

/-- All slots, each with its rack. -/
def sites (w : Surroundings ρ) : List (Rack ρ × Option (Device ρ)) := w.racks.flatMap fun r => r.slots.map (r, ·)

/-- The device other than the one in the gaps that actions mean by `id`. -/
def other? (w : Surroundings ρ) (id : String) : Option (Device ρ) :=
  (w.slots.filterMap fun slot => slot).reverse.find? (·.id == id)

/-- The chassis of the device other than the one in the gaps that actions mean by `id`. -/
def rackOf? (w : Surroundings ρ) (id : String) : Option (Rack ρ) :=
  (w.sites.reverse.find? fun site => site.2.any (·.id == id)).map (·.1)

/-- The device is apart from its surroundings: no other has its identifier, it asks for the presence of no other,
and no other asks for its presence, neither in its own procedures nor through rules. -/
structure Isolates (w : Surroundings ρ) (a : Device α) : Prop where
  distinct : ∀ d, some d ∈ w.slots → d.id ≠ a.id
  own : ∀ as ∈ a.procedures, ∀ id, (w.plant a).Reaches (.inOrder as) (.presence id) → id = a.id
  others : ∀ d, some d ∈ w.slots → ∀ as ∈ d.procedures, ∀ id,
    (w.plant a).Reaches (.inOrder as) (.presence id) → id ≠ a.id

variable (w : Surroundings ρ) (a : Device α)

theorem devices_plant : (w.plant a).devices = w.slots.map a.fill := by
  simp only [Plant.devices, plant, slots, List.flatMap_map, List.map_flatMap]
  rfl

theorem places_plant : (w.plant a).places = w.sites.map fun site => (site.1.filled a, a.fill site.2) := by
  simp only [Plant.places, plant, sites, List.flatMap_map, List.map_flatMap, List.map_map, Rack.filled]
  rfl

variable {w a}

theorem mem_slots_of_mem_sites {site : Rack ρ × Option (Device ρ)} (h : site ∈ w.sites) : site.2 ∈ w.slots := by
  obtain ⟨r, hr, h⟩ := List.mem_flatMap.mp h
  obtain ⟨slot, hslot, rfl⟩ := List.mem_map.mp h
  exact List.mem_flatMap.mpr ⟨r, hr, hslot⟩

theorem mem_slots_of_other? {id : String} {d : Device ρ} (h : w.other? id = some d) : some d ∈ w.slots ∧ d.id = id := by
  unfold other? at h
  refine ⟨?_, by simpa using List.find?_some h⟩
  simpa using List.mem_reverse.mp (List.mem_of_find?_eq_some h)

/-- Other devices are found as if there were no gaps. -/
theorem device?_plant_of_ne {id : String} (h : id ≠ a.id) : (w.plant a).device? id = (w.other? id).map Device.onRest := by
  have find : ∀ slots : List (Option (Device ρ)), (slots.map a.fill).find? (·.id == id) =
      ((slots.filterMap fun slot => slot).find? (·.id == id)).map Device.onRest := by
    intro slots
    induction slots with
    | nil => rfl
    | cons slot slots ih =>
      cases slot with
      | none =>
        have hne : (a.onOwn (ρ := ρ)).id ≠ id := fun heq => h heq.symm
        simpa [Device.fill, hne] using ih
      | some d =>
        by_cases hd : d.id = id
        · have heq : (d.onRest (α := α)).id = id := hd
          simp [Device.fill, hd, heq]
        · have hne : (d.onRest (α := α)).id ≠ id := hd
          simpa [Device.fill, hd, hne] using ih
  unfold Plant.device? other?
  rw [devices_plant, ← List.map_reverse, find, List.filterMap_reverse]

theorem chassisOf?_plant_of_ne {id : String} (h : id ≠ a.id) :
    (w.plant a).chassisOf? id = (w.rackOf? id).map (·.filled a) := by
  have same : ((fun place : Chassis (ρ × α) × Device (ρ × α) => place.2.id == id) ∘
      fun site : Rack ρ × Option (Device ρ) => (site.1.filled a, a.fill site.2)) =
        fun site => site.2.any (·.id == id) := by
    funext ⟨r, slot⟩
    cases slot with
    | none => exact beq_eq_false_iff_ne.mpr fun heq => h heq.symm
    | some d => rfl
  unfold Plant.chassisOf? rackOf?
  rw [places_plant, ← List.map_reverse, List.find?_map, same, Option.map_map, Option.map_map]
  rfl

theorem chassisOf_plant_of_ne {id : String} (h : id ≠ a.id) :
    (w.plant a).chassisOf id =
      (w.rackOf? id).elim (.error ⟨.deviceNotFound id, []⟩) fun rack => .ok (rack.filled a) := by
  unfold Plant.chassisOf
  rw [chassisOf?_plant_of_ne h]
  cases w.rackOf? id <;> rfl

/-- Only the device itself is found under its identifier. -/
theorem Isolates.device?_own (h : w.Isolates a) {d : Device (ρ × α)} (hd : (w.plant a).device? a.id = some d) :
    d = a.onOwn := by
  obtain ⟨hmem, hid⟩ := Plant.device?_eq_some hd
  rw [devices_plant] at hmem
  obtain ⟨slot, hslot, rfl⟩ := List.mem_map.mp hmem
  cases slot with
  | none => rfl
  | some e => exact absurd hid (h.distinct e hslot)

end Surroundings
end
end PowerRails
