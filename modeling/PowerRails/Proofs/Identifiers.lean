import Mathlib.Data.List.Nodup
import PowerRails.Bus.Simulated
import PowerRails.Controller

/-! # Identifiers

Devices, chassis and rules are meant by identifiers, which are looked up whenever they are used. There are two ways to
look them up: for actions the last entry of a name counts, and for those who ask a controller the first one. A plant in
which an identifier is used twice is refused, and the fault names the first one that repeats another (`FirstRepeats`).
In every other plant an identifier is that of one thing or of nothing, so both ways find the same (`LooksUp`). -/

namespace PowerRails

/-! ### Repetitions -/

/-- An identifier is the first of a list that repeats an earlier one. -/
def IsFirstRepeated (ids : List String) (id : String) : Prop :=
  ∃ before after, ids = before ++ id :: after ∧ before.Nodup ∧ id ∈ before

theorem firstRepeated_eq_some_iff {seen ids : List String} {id : String} :
    firstRepeated seen ids = some id ↔
      ∃ before after, ids = before ++ id :: after ∧ before.Nodup ∧ (∀ x ∈ before, x ∉ seen) ∧
        (id ∈ before ∨ id ∈ seen) := by
  -- What has been seen grows along the list, so it is left open.
  induction ids generalizing seen with
  | nil => simp [firstRepeated]
  | cons x ids ih =>
    by_cases hx : x ∈ seen
    · simp only [firstRepeated, hx, if_true, Option.some.injEq]
      constructor
      · rintro rfl
        exact ⟨[], ids, rfl, .nil, List.forall_mem_nil _, .inr hx⟩
      · rintro ⟨before, after, hids, -, hfresh, -⟩
        cases before with
        | nil => exact (List.cons.inj hids).1
        | cons y before =>
          obtain ⟨rfl, -⟩ := List.cons.inj hids
          exact absurd hx (hfresh x List.mem_cons_self)
    · simp only [firstRepeated, hx, if_false, ih, List.mem_cons, not_or]
      constructor
      · rintro ⟨before, after, rfl, hnodup, hfresh, hid⟩
        refine ⟨x :: before, after, rfl, List.nodup_cons.mpr ⟨fun hmem => (hfresh x hmem).1 rfl, hnodup⟩, ?_, ?_⟩
        · intro y hy
          rcases List.mem_cons.mp hy with rfl | hy
          · exact hx
          · exact (hfresh y hy).2
        · rcases hid with hid | rfl | hid
          · exact .inl (List.mem_cons_of_mem x hid)
          · exact .inl List.mem_cons_self
          · exact .inr hid
      · rintro ⟨before, after, hids, hnodup, hfresh, hid⟩
        cases before with
        | nil =>
          obtain ⟨rfl, -⟩ := List.cons.inj hids
          simp [hx] at hid
        | cons y before =>
          obtain ⟨rfl, rfl⟩ := List.cons.inj hids
          obtain ⟨hnew, hnodup⟩ := List.nodup_cons.mp hnodup
          refine ⟨before, after, rfl, hnodup, fun y hy => ⟨?_, hfresh y (List.mem_cons_of_mem x hy)⟩, ?_⟩
          · rintro rfl
            exact hnew hy
          · simpa [or_comm, or_assoc, or_left_comm] using hid

/-- Checks that are made one after another all pass. -/
theorem then_eq_ok_iff {ε : Type} {x y : Except ε Unit} : (do x; y) = .ok () ↔ x = .ok () ∧ y = .ok () := by
  cases x <;> simp [bind, Except.bind]

/-- Of checks that are made one after another, the first that fails is reported. -/
theorem then_eq_error_iff {ε : Type} {x y : Except ε Unit} {e : ε} :
    (do x; y) = .error e ↔ x = .error e ∨ x = .ok () ∧ y = .error e := by
  cases x <;> simp [bind, Except.bind]

section
variable {ε α : Type} {check : α → Except ε Unit} {l : List α}

theorem forM_eq_ok_iff : l.forM check = .ok () ↔ ∀ a ∈ l, check a = .ok () := by
  induction l with
  | nil => simp [pure, Except.pure]
  | cons a l ih =>
    have hcons : (a :: l).forM check = (do check a; l.forM check) := rfl
    rw [hcons, then_eq_ok_iff, ih, List.forall_mem_cons]

theorem forM_eq_error_iff {e : ε} : l.forM check = .error e ↔
    ∃ before a after, l = before ++ a :: after ∧ (∀ b ∈ before, check b = .ok ()) ∧ check a = .error e := by
  induction l with
  | nil => simp [pure, Except.pure]
  | cons a l ih =>
    have hcons : (a :: l).forM check = (do check a; l.forM check) := rfl
    rw [hcons, then_eq_error_iff, ih]
    constructor
    · rintro (ha | ⟨ha, before, b, after, rfl, hbefore, hb⟩)
      · exact ⟨[], a, l, rfl, nofun, ha⟩
      · exact ⟨a :: before, b, after, rfl, List.forall_mem_cons.mpr ⟨ha, hbefore⟩, hb⟩
    · rintro ⟨before, b, after, hl, hbefore, hb⟩
      cases before with
      | nil =>
        obtain ⟨rfl, -⟩ := List.cons.inj hl
        exact .inl hb
      | cons c before =>
        obtain ⟨rfl, rfl⟩ := List.cons.inj hl
        obtain ⟨ha, hbefore⟩ := List.forall_mem_cons.mp hbefore
        exact .inr ⟨ha, before, b, after, rfl, hbefore, hb⟩

end

section
variable {σ : Type}

namespace Plant

/-- No identifier is used twice where it must not be. -/
structure Distinct (p : Plant σ) : Prop where
  chassis : (p.chassis.map (·.id)).Nodup
  devices : (p.devices.map (·.id)).Nodup
  rails : ∀ d ∈ p.devices, (d.rails.map (·.id)).Nodup
  rules : (p.rules.map (·.id)).Nodup

/-- The first violation: of what kind it is, and which identifier repeats another. -/
inductive FirstRepeats (p : Plant σ) : String → String → Prop
  | chassis {id} : IsFirstRepeated (p.chassis.map (·.id)) id → FirstRepeats p "chassis" id
  | device {id} : (p.chassis.map (·.id)).Nodup → IsFirstRepeated (p.devices.map (·.id)) id → FirstRepeats p "device" id
  | rail {before d after id} : (p.chassis.map (·.id)).Nodup → (p.devices.map (·.id)).Nodup →
      p.devices = before ++ d :: after → (∀ e ∈ before, (e.rails.map (·.id)).Nodup) →
      IsFirstRepeated (d.rails.map (·.id)) id → FirstRepeats p "rail" id
  | rule {id} : (p.chassis.map (·.id)).Nodup → (p.devices.map (·.id)).Nodup →
      (∀ d ∈ p.devices, (d.rails.map (·.id)).Nodup) → IsFirstRepeated (p.rules.map (·.id)) id → FirstRepeats p "rule" id

variable {p : Plant σ} {kind : String} {ids : List String} {fault : Fault}

theorem requireDistinct_eq_ok_iff : requireDistinct kind ids = .ok () ↔ ids.Nodup := by
  unfold requireDistinct
  cases h : firstRepeated [] ids with
  | none => simpa using (firstRepeated_eq_none_iff.mp h).1
  | some id =>
    have hne : firstRepeated [] ids ≠ none := by simp [h]
    simpa [firstRepeated_eq_none_iff] using hne

theorem requireDistinct_eq_error_iff :
    requireDistinct kind ids = .error fault ↔ ∃ id, IsFirstRepeated ids id ∧ fault = ⟨.duplicateId kind id, []⟩ := by
  have hfirst : ∀ id, firstRepeated [] ids = some id ↔ IsFirstRepeated ids id := fun id => by
    simp [firstRepeated_eq_some_iff, IsFirstRepeated]
  simp only [← hfirst, requireDistinct]
  cases firstRepeated [] ids <;> simp [eq_comm]

theorem validate_eq_ok_iff : p.validate = .ok () ↔ p.Distinct := by
  simp only [validate, then_eq_ok_iff, forM_eq_ok_iff, requireDistinct_eq_ok_iff]
  exact ⟨fun ⟨hchassis, hdevices, hrails, hrules⟩ => ⟨hchassis, hdevices, hrails, hrules⟩,
    fun h => ⟨h.chassis, h.devices, h.rails, h.rules⟩⟩

theorem validate_eq_error_iff :
    p.validate = .error fault ↔ ∃ kind id, p.FirstRepeats kind id ∧ fault = ⟨.duplicateId kind id, []⟩ := by
  simp only [validate, then_eq_error_iff, forM_eq_error_iff, forM_eq_ok_iff, requireDistinct_eq_ok_iff,
    requireDistinct_eq_error_iff]
  constructor
  · rintro (⟨id, hid, rfl⟩ | ⟨hchassis, ⟨id, hid, rfl⟩ | ⟨hdevices, ⟨before, d, after, hd, hbefore, id, hid, rfl⟩ |
      ⟨hrails, id, hid, rfl⟩⟩⟩)
    · exact ⟨_, id, .chassis hid, rfl⟩
    · exact ⟨_, id, .device hchassis hid, rfl⟩
    · exact ⟨_, id, .rail hchassis hdevices hd hbefore hid, rfl⟩
    · exact ⟨_, id, .rule hchassis hdevices hrails hid, rfl⟩
  · rintro ⟨kind, id, hfirst, rfl⟩
    cases hfirst with
    | chassis hid => exact .inl ⟨id, hid, rfl⟩
    | device hchassis hid => exact .inr ⟨hchassis, .inl ⟨id, hid, rfl⟩⟩
    | rail hchassis hdevices hd hbefore hid =>
      exact .inr ⟨hchassis, .inr ⟨hdevices, .inl ⟨_, _, _, hd, hbefore, id, hid, rfl⟩⟩⟩
    | rule hchassis hdevices hrails hid =>
      exact .inr ⟨hchassis, .inr ⟨hdevices, .inr ⟨hrails, id, hid, rfl⟩⟩⟩

end Plant

/-! ### Looking up -/

section
variable {α : Type} {has : α → Prop} {l : List α} {x y : Option α}

/-- What has been found in a list is the one item that has a property, and if nothing has been found no item has it. -/
def OnlyOne (has : α → Prop) (l : List α) : Option α → Prop
  | some a => has a ∧ ∃ before after, l = before ++ a :: after ∧ ∀ b ∈ before ++ after, ¬has b
  | none => ∀ a ∈ l, ¬has a

theorem OnlyOne.eq (hx : OnlyOne has l x) (hy : OnlyOne has l y) : x = y := by
  match x, y with
  | none, none => rfl
  | none, some b =>
    obtain ⟨hb, before, after, rfl, -⟩ := hy
    exact absurd hb (hx b (by simp))
  | some a, none =>
    obtain ⟨ha, before, after, rfl, -⟩ := hx
    exact absurd ha (hy a (by simp))
  | some a, some b =>
    obtain ⟨ha, before, after, rfl, hothers⟩ := hx
    obtain ⟨hb, before', after', hl, -⟩ := hy
    have hmem : b ∈ before ++ a :: after := by simp [hl]
    have hor : b = a ∨ b ∈ before ++ after := by simpa [or_left_comm] using hmem
    exact congrArg some (hor.resolve_right fun h => hothers b h hb).symm

/-- An item is the one that has a property if no other one has it and it stands in the list once. -/
theorem onlyOne_of_mem {a : α} (hnodup : l.Nodup) (hmem : a ∈ l) (ha : has a) (hone : ∀ b ∈ l, has b → b = a) :
    OnlyOne has l (some a) := by
  obtain ⟨before, after, rfl⟩ := List.append_of_mem hmem
  obtain ⟨hnew, -⟩ := List.nodup_cons.mp (List.nodup_middle.mp hnodup)
  refine ⟨ha, before, after, rfl, fun b hb hb' => hnew ?_⟩
  have hsame : b = a := hone b (by simp only [List.mem_append, List.mem_cons] at hb ⊢; tauto) hb'
  exact hsame ▸ hb

/-- Where all identifiers are distinct, whatever finds an item by its identifier finds the one that has it. -/
theorem onlyOne_of_nodup {key : α → String} {id : String} (hnodup : (l.map key).Nodup)
    (hsome : ∀ a, x = some a → a ∈ l ∧ key a = id) (hnone : x = none → ∀ a ∈ l, key a ≠ id) :
    OnlyOne (key · = id) l x := by
  match x with
  | none => exact hnone rfl
  | some a =>
    obtain ⟨hmem, hkey⟩ := hsome a rfl
    exact onlyOne_of_mem (.of_map key hnodup) hmem hkey fun b hb hb' =>
      List.inj_on_of_nodup_map hnodup hb hmem (hb'.trans hkey.symm)

variable {key : α → String}

theorem onlyOne_find? (hnodup : (l.map key).Nodup) (id : String) :
    OnlyOne (key · = id) l (l.find? (key · == id)) :=
  onlyOne_of_nodup hnodup (fun a ha => ⟨List.mem_of_find?_eq_some ha, by simpa using List.find?_some ha⟩)
    fun hnone => by simpa using hnone

theorem onlyOne_find?_reverse (hnodup : (l.map key).Nodup) (id : String) :
    OnlyOne (key · = id) l (l.reverse.find? (key · == id)) :=
  onlyOne_of_nodup hnodup
    (fun a ha => ⟨List.mem_reverse.mp (List.mem_of_find?_eq_some ha), by simpa using List.find?_some ha⟩)
    fun hnone => by simpa using hnone

end

/-- A device of a chassis has an identifier. -/
def Chassis.Holds (ch : Chassis σ) (id : String) : Prop := ∃ d ∈ ch.devices, d.id = id

namespace Plant
variable {p : Plant σ} {place : Chassis σ × Device σ} {id : String}

theorem device?_of_mem {d : Device σ} (h : d ∈ p.devices) : ∃ e, p.device? d.id = some e := by
  refine Option.isSome_iff_exists.mp (List.find?_isSome.mpr ⟨d, List.mem_reverse.mpr h, ?_⟩)
  exact beq_self_eq_true d.id

theorem mem_devices_of_place (h : place ∈ p.places) : place.2 ∈ p.devices := by
  obtain ⟨chassis, hchassis, hplace⟩ := List.mem_flatMap.mp h
  obtain ⟨device, hdevice, rfl⟩ := List.mem_map.mp hplace
  exact List.mem_flatMap.mpr ⟨chassis, hchassis, hdevice⟩

theorem map_places (p : Plant σ) : p.places.map (·.2) = p.devices := by
  rw [places, devices, List.map_flatMap]
  exact List.flatMap_congr fun chassis _ => List.map_map.trans (List.map_id _)

theorem nodup_devices (h : p.validate = .ok ()) : (p.devices.map (·.id)).Nodup := (validate_eq_ok_iff.mp h).devices

/-- In a valid plant, no two places have devices of one name. -/
theorem nodup_places (h : p.validate = .ok ()) : (p.places.map (·.2.id)).Nodup := by
  have hids : p.places.map (·.2.id) = p.devices.map (·.id) := by
    rw [← p.map_places, List.map_map]
    rfl
  exact hids ▸ nodup_devices h

/-- In a valid plant, actions mean a device by its identifier. -/
theorem device?_of_validate (h : p.validate = .ok ()) {d : Device σ} (hd : d ∈ p.devices) :
    p.device? d.id = some d := by
  obtain ⟨e, he⟩ := device?_of_mem hd
  obtain ⟨hmem, hid⟩ := device?_eq_some he
  rw [he, List.inj_on_of_nodup_map (nodup_devices h) hmem hd hid]

theorem mem_places {ch : Chassis σ} {d : Device σ} : (ch, d) ∈ p.places ↔ ch ∈ p.chassis ∧ d ∈ ch.devices := by
  simp only [places, List.mem_flatMap, List.mem_map, Prod.mk.injEq]
  constructor
  · rintro ⟨_, hch, _, hd, rfl, rfl⟩
    exact ⟨hch, hd⟩
  · rintro ⟨hch, hd⟩
    exact ⟨ch, hch, d, hd, rfl, rfl⟩

/-- In a valid plant, the chassis of a device is the one that holds it. -/
theorem chassisOf?_of_validate (h : p.validate = .ok ()) (hplace : place ∈ p.places) :
    p.chassisOf? place.2.id = some place.1 := by
  have hfind : (p.places.reverse.find? (·.2.id == place.2.id)).isSome = true :=
    List.find?_isSome.mpr ⟨place, List.mem_reverse.mpr hplace, beq_self_eq_true _⟩
  obtain ⟨other, hother⟩ := Option.isSome_iff_exists.mp hfind
  have hmem : other ∈ p.places := List.mem_reverse.mp (List.mem_of_find?_eq_some hother)
  have hid : other.2.id = place.2.id := by simpa using List.find?_some hother
  obtain rfl : other = place := List.inj_on_of_nodup_map (nodup_places h) hmem hplace hid
  rw [chassisOf?, hother, Option.map_some]

theorem chassisOf_of_validate (h : p.validate = .ok ()) (hplace : place ∈ p.places) :
    p.chassisOf place.2.id = .ok place.1 := by
  rw [chassisOf, chassisOf?_of_validate h hplace]

theorem exists_place_of_chassisOf? {ch : Chassis σ} (h : p.chassisOf? id = some ch) :
    ∃ d, (ch, d) ∈ p.places ∧ d.id = id := by
  obtain ⟨⟨ch', d⟩, hfind, rfl⟩ := Option.map_eq_some_iff.mp h
  exact ⟨d, List.mem_reverse.mp (List.mem_of_find?_eq_some hfind), by simpa using List.find?_some hfind⟩

/-- In a valid plant, no other chassis has a device of that name than the one that is found. -/
theorem onlyOne_chassisOf? (h : p.validate = .ok ()) (id : String) :
    OnlyOne (·.Holds id) p.chassis (p.chassisOf? id) := by
  cases hfound : p.chassisOf? id with
  | none =>
    rintro ch hch ⟨d, hd, rfl⟩
    have hplace : (ch, d) ∈ p.places := mem_places.mpr ⟨hch, hd⟩
    cases hfound.symm.trans (chassisOf?_of_validate h hplace)
  | some ch =>
    obtain ⟨d, hplace, rfl⟩ := exists_place_of_chassisOf? hfound
    obtain ⟨hch, hd⟩ := mem_places.mp hplace
    -- Any other chassis that holds a device of this name would be found for it as well.
    refine onlyOne_of_mem (.of_map _ (validate_eq_ok_iff.mp h).chassis) hch ⟨d, hd, rfl⟩ ?_
    rintro other hother ⟨e, he, hid⟩
    have hplace' : (other, e) ∈ p.places := mem_places.mpr ⟨hother, he⟩
    have hfound' : p.chassisOf? e.id = some other := chassisOf?_of_validate h hplace'
    rw [hid, hfound] at hfound'
    exact (Option.some.inj hfound').symm

end Plant

namespace Controller
variable {ctl : Controller σ}

/-- Whoever looks up an identifier finds the one thing that has it, or nothing if there is none: actions, and those who
ask the controller or a chassis. -/
structure LooksUp (ctl : Controller σ) (id : String) : Prop where
  device : OnlyOne (·.id = id) ctl.plant.devices (ctl.device? id)
  deviceOfActions : ctl.plant.device id = (ctl.device? id).elim (.error ⟨.deviceNotFound id, []⟩) .ok
  rule : OnlyOne (·.id = id) ctl.plant.rules (ctl.rule? id)
  ruleOfActions : ctl.plant.rule id = (ctl.rule? id).elim (.error ⟨.ruleNotFound id, []⟩) .ok
  /-- Only one chassis holds the device, and this chassis alone finds it. -/
  chassis : ∃ found, OnlyOne (·.Holds id) ctl.plant.chassis found ∧
    ctl.plant.chassisOf id = found.elim (.error ⟨.deviceNotFound id, []⟩) .ok ∧
    ∀ ch ∈ ctl.plant.chassis, ∀ d, ch.device? id = some d ↔ found = some ch ∧ ctl.device? id = some d

theorem device?_eq (ctl : Controller σ) (id : String) : ctl.device? id = ctl.plant.devices.find? (·.id == id) :=
  List.find?_flatMap.symm

/-- In a valid plant the last device of a name is the first. -/
theorem device?_eq_of_validate (h : ctl.plant.validate = .ok ()) (id : String) :
    ctl.plant.device? id = ctl.device? id := by
  have hnodup := Plant.nodup_devices h
  rw [device?_eq]
  exact (onlyOne_find?_reverse hnodup id).eq (onlyOne_find? hnodup id)

theorem rule?_eq_of_validate (h : ctl.plant.validate = .ok ()) (id : String) : ctl.plant.rule? id = ctl.rule? id :=
  have hnodup := (Plant.validate_eq_ok_iff.mp h).rules
  (onlyOne_find?_reverse hnodup id).eq (onlyOne_find? hnodup id)

theorem chassis_device?_eq_some_iff (h : ctl.plant.validate = .ok ()) {ch : Chassis σ} (hch : ch ∈ ctl.plant.chassis)
    {id : String} {d : Device σ} :
    ch.device? id = some d ↔ ctl.plant.chassisOf? id = some ch ∧ ctl.device? id = some d := by
  rw [← device?_eq_of_validate h]
  constructor
  · intro hd
    have hmem : d ∈ ch.devices := List.mem_of_find?_eq_some hd
    have hid : d.id = id := by simpa using List.find?_some hd
    have hplace : (ch, d) ∈ ctl.plant.places := Plant.mem_places.mpr ⟨hch, hmem⟩
    subst hid
    exact ⟨Plant.chassisOf?_of_validate h hplace, Plant.device?_of_validate h (Plant.mem_devices_of_place hplace)⟩
  · rintro ⟨hfound, hd⟩
    obtain ⟨e, hplace, rfl⟩ := Plant.exists_place_of_chassisOf? hfound
    obtain rfl : e = d := by
      have he := Plant.device?_of_validate h (Plant.mem_devices_of_place hplace)
      exact Option.some.inj (he.symm.trans hd)
    obtain ⟨f, hf⟩ : ∃ f, ch.device? e.id = some f := by
      refine Option.isSome_iff_exists.mp (List.find?_isSome.mpr ⟨e, (Plant.mem_places.mp hplace).2, ?_⟩)
      exact beq_self_eq_true e.id
    have hf' : (ch, f) ∈ ctl.plant.places := Plant.mem_places.mpr ⟨hch, List.mem_of_find?_eq_some hf⟩
    have hid : f.id = e.id := by simpa using List.find?_some hf
    have hsame := List.inj_on_of_nodup_map (Plant.nodup_places h) hf' hplace hid
    exact hf.trans (congrArg (some ·.2) hsame)

theorem looksUp_of_validate (h : ctl.plant.validate = .ok ()) (id : String) : ctl.LooksUp id where
  device := by
    rw [device?_eq]
    exact onlyOne_find? (Plant.nodup_devices h) id
  deviceOfActions := by
    rw [Plant.device, device?_eq_of_validate h]
    cases ctl.device? id <;> rfl
  rule := onlyOne_find? (Plant.validate_eq_ok_iff.mp h).rules id
  ruleOfActions := by
    rw [Plant.rule, rule?_eq_of_validate h]
    cases ctl.rule? id <;> rfl
  chassis := by
    refine ⟨_, Plant.onlyOne_chassisOf? h id, ?_, fun ch hch d => chassis_device?_eq_some_iff h hch⟩
    rw [Plant.chassisOf]
    cases ctl.plant.chassisOf? id <;> rfl

/-- A plant is accepted exactly if no identifier is used twice: of a chassis, of a device in all chassis, of a rail
within its device, or of a rule. Otherwise the fault names the first kind that is violated and the first identifier that
repeats an earlier one. In a plant that is accepted every identifier means the same to all who look it up. -/
theorem identifiers_unambiguous (ctl : Controller σ) :
    (ctl.plant.validate = .ok () ↔ ctl.plant.Distinct) ∧
      (∀ fault, ctl.plant.validate = .error fault ↔
        ∃ kind id, ctl.plant.FirstRepeats kind id ∧ fault = ⟨.duplicateId kind id, []⟩) ∧
      (ctl.plant.validate = .ok () → ∀ id, ctl.LooksUp id) :=
  ⟨Plant.validate_eq_ok_iff, fun _ => Plant.validate_eq_error_iff, looksUp_of_validate⟩

end Controller
end

/-! ### Two shelves -/

/-- A supply with one rail of twelve volts. -/
def shelfSupply (id : String) : Device RegisterFile where
  id := id
  isRegulator := true
  inventoryPath := ""
  bus := RegisterFile.bus ⟨"i2c0", 0x40⟩
  rails := [{ id := "12v" }]

/-- Rails of different devices may have one name, and a device may be called what a chassis is called. -/
def shelves : Controller RegisterFile where
  plant :=
    ⟨[⟨"upper", "", [shelfSupply "lower"]⟩, ⟨"lower", "", [shelfSupply "vrm"]⟩],
      [⟨"idle", ⟨.comparePresence "vrm" true, []⟩⟩]⟩
  hardware := {}

theorem shelves_unambiguous :
    shelves.plant.validate = .ok () ∧ shelves.LooksUp "lower" ∧
      shelves.plant.device "lower" = .ok (shelfSupply "lower") ∧
      shelves.plant.chassisOf "lower" = .ok ⟨"upper", "", [shelfSupply "lower"]⟩ ∧ shelves.device? "upper" = none := by
  have hvalid : shelves.plant.validate = .ok () := rfl
  obtain ⟨-, -, hlooksUp⟩ := shelves.identifiers_unambiguous
  exact ⟨hvalid, hlooksUp hvalid "lower", rfl, rfl, rfl⟩

end PowerRails
