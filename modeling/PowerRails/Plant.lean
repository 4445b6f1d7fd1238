import PowerRails.Device

/-! # Plants

A plant is all there is to manage: chassis with their devices, and the rules. Actions name devices and rules
by identifier, and are resolved here when they are carried out. A look-up finds the last entry of a name; a
valid plant has no name twice, so that there is only one to find. -/

namespace PowerRails

/-- The chassis and the rules of a system. -/
structure Plant (σ : Type) where
  chassis : List (Chassis σ)
  rules : List Rule

/-- The first item that repeats an earlier one, or one that was `seen` before. -/
def firstRepeated (seen : List String) : List String → Option String
  | [] => none
  | id :: ids => if id ∈ seen then some id else firstRepeated (id :: seen) ids

namespace Plant

variable {σ : Type}

/-- The devices of all chassis, in the order in which they are visited. -/
def devices (p : Plant σ) : List (Device σ) := p.chassis.flatMap (·.devices)

/-- The devices with their chassis, in the order in which they are visited. -/
def places (p : Plant σ) : List (Chassis σ × Device σ) := p.chassis.flatMap fun c => c.devices.map (c, ·)

/-- The device that actions mean by `id`. -/
def device? (p : Plant σ) (id : String) : Option (Device σ) := p.devices.reverse.find? (·.id == id)

/-- The chassis of the device that actions mean by `id`. -/
def chassisOf? (p : Plant σ) (id : String) : Option (Chassis σ) :=
  (p.places.reverse.find? (·.2.id == id)).map (·.1)

/-- The rule that actions mean by `id`. -/
def rule? (p : Plant σ) (id : String) : Option Rule := p.rules.reverse.find? (·.id == id)

/-- The device that actions mean by `id`, or the fault of naming none. -/
def device (p : Plant σ) (id : String) : Except Fault (Device σ) :=
  match p.device? id with
  | some d => .ok d
  | none => .error ⟨.deviceNotFound id, []⟩

/-- The chassis of the device that actions mean by `id`, or the fault of naming no device. -/
def chassisOf (p : Plant σ) (id : String) : Except Fault (Chassis σ) :=
  match p.chassisOf? id with
  | some c => .ok c
  | none => .error ⟨.deviceNotFound id, []⟩

/-- The rule that actions mean by `id`, or the fault of naming none. -/
def rule (p : Plant σ) (id : String) : Except Fault Rule :=
  match p.rule? id with
  | some r => .ok r
  | none => .error ⟨.ruleNotFound id, []⟩

/-- Refuses a list of identifiers in which one is repeated. -/
def requireDistinct (kind : String) (ids : List String) : Except Fault Unit :=
  match firstRepeated [] ids with
  | some id => .error ⟨.duplicateId kind id, []⟩
  | none => .ok ()

/-- Refuses a plant in which an identifier is used twice: of a chassis, of a device in all chassis, of a rail
within its device, and of a rule. The first of these kinds that is violated is reported. -/
def validate (p : Plant σ) : Except Fault Unit := do
  requireDistinct "chassis" (p.chassis.map (·.id))
  requireDistinct "device" (p.devices.map (·.id))
  p.devices.forM fun d => requireDistinct "rail" (d.rails.map (·.id))
  requireDistinct "rule" (p.rules.map (·.id))

theorem device?_eq_some {p : Plant σ} {id : String} {d : Device σ} (h : p.device? id = some d) :
    d ∈ p.devices ∧ d.id = id := by
  unfold device? at h
  exact ⟨List.mem_reverse.mp (List.mem_of_find?_eq_some h), by simpa using List.find?_some h⟩

theorem device_eq_ok_iff {p : Plant σ} {id : String} {d : Device σ} : p.device id = .ok d ↔ p.device? id = some d := by
  unfold device
  cases p.device? id <;> simp

theorem rule?_eq_some {p : Plant σ} {id : String} {r : Rule} (h : p.rule? id = some r) :
    r ∈ p.rules ∧ r.id = id := by
  unfold rule? at h
  exact ⟨List.mem_reverse.mp (List.mem_of_find?_eq_some h), by simpa using List.find?_some h⟩

end Plant

theorem firstRepeated_eq_none_iff {seen ids : List String} :
    firstRepeated seen ids = none ↔ ids.Nodup ∧ ∀ id ∈ ids, id ∉ seen := by
  induction ids generalizing seen with
  | nil => simp [firstRepeated]
  | cons id ids ih =>
    by_cases h : id ∈ seen
    · simp [firstRepeated, h]
    · simp only [firstRepeated, h, if_false, ih, List.nodup_cons, List.mem_cons, not_or, forall_eq_or_imp,
        not_false_eq_true, true_and]
      constructor
      · rintro ⟨hn, hs⟩
        exact ⟨⟨fun hm => (hs id hm).1 rfl, hn⟩, fun x hx => (hs x hx).2⟩
      · rintro ⟨⟨hm, hn⟩, hs⟩
        exact ⟨hn, fun x hx => ⟨fun he => hm (he ▸ hx), hs x hx⟩⟩

end PowerRails
