import PowerRails.Proofs.Elsewhere

/-! # Bystanders

The devices around an isolated device do the same whatever device fills its place. They never enter its scope
and never ask for its presence, so of all that it leaves behind they could see only the keys of its captures;
and those are keys of no other device. -/

namespace PowerRails

section
variable {ρ α β : Type}

/-- Contexts of devices elsewhere, around two devices that fill the same place. -/
structure Context.SameElsewhere (w : Surroundings ρ) (a : Device α) (b : Device β) (c : Context (ρ × α))
    (d : Context (ρ × β)) : Prop where
  plant : c.plant = w.plant a
  plant' : d.plant = w.plant b
  cycle : c.cycle = d.cycle
  maxRuleDepth : c.maxRuleDepth = d.maxRuleDepth
  sensorsService : c.sensorsService = d.sensorsService
  held : c.held = d.held
  scope : c.scope = d.scope
  ruleChain : c.ruleChain = d.ruleChain
  detecting : c.detecting = d.detecting
  volts : c.volts = d.volts
  apart : c.scope.device ≠ a.id
  earlier : ∀ key, ¬Captures.IsKeyOf a.id key → c.earlier.contains key = d.earlier.contains key

/-- States in which nothing was recorded but by devices elsewhere. -/
structure State.SameRecords (a : String) (s : State (ρ × α)) (t : State (ρ × β)) : Prop where
  hardware : s.hardware.1 = t.hardware.1
  presence : ∀ id, id ≠ a → s.presence.results.get? id = t.presence.results.get? id
  findings : s.findings = t.findings
  readings : s.readings = t.readings
  captures : s.captures = t.captures
  activity : s.activity = t.activity

/-- Two devices that fill the same place, as those around them see it. -/
def bystanders (w : Surroundings ρ) (a : Device α) (b : Device β) : Likeness (ρ × α) (ρ × β) where
  may t := ∀ id, (w.plant a).Reaches t (.presence id) → id ≠ a.id
  asks := Context.SameElsewhere w a b
  contexts := Context.SameElsewhere w a b
  hardware h k := h.1 = k.1
  states := State.SameRecords a.id

theorem PresenceCache.get?_congr {p q : PresenceCache} {id : String} (h : p.results.get? id = q.results.get? id)
    (cycle : Cycle) : p.get? id cycle = q.get? id cycle := by simp only [get?, h]

theorem Device.alike_onRest (e : Device ρ) :
    (e.onRest (α := α)).bus.Alike (fun h k => h.1 = k.1) (e.onRest (α := β)).bus where
  endpoint := rfl
  isOpen {h k} hk := congrArg e.bus.isOpen hk
  connect {h k} hk := by
    obtain ⟨rest, own⟩ := h
    cases hk
    exact ⟨rfl, rfl⟩
  disconnect {h k} hk := by
    obtain ⟨rest, own⟩ := h
    cases hk
    exact ⟨rfl, rfl⟩
  read {h k} register count hk := by
    obtain ⟨rest, own⟩ := h
    cases hk
    exact ⟨rfl, rfl⟩
  write {h k} register data hk := by
    obtain ⟨rest, own⟩ := h
    cases hk
    exact ⟨rfl, rfl⟩

section
variable {w : Surroundings ρ} {a : Device α} {b : Device β} {c : Context (ρ × α)} {d : Context (ρ × β)}
  {s : State (ρ × α)} {t : State (ρ × β)}

namespace Context.SameElsewhere

/-! ### Look-ups -/

theorem device?_eq (hid : b.id = a.id) (h : c.SameElsewhere w a b d) {id : String} (hne : id ≠ a.id) :
    c.plant.device? id = (w.other? id).map Device.onRest ∧ d.plant.device? id = (w.other? id).map Device.onRest := by
  rw [h.plant, h.plant']
  exact ⟨Surroundings.device?_plant_of_ne hne, Surroundings.device?_plant_of_ne (hid ▸ hne)⟩

/-- A device elsewhere is unknown in both plants, or the same device in both. -/
theorem device_eq (hid : b.id = a.id) (h : c.SameElsewhere w a b d) {id : String} (hne : id ≠ a.id) :
    (c.plant.device id = .error ⟨.deviceNotFound id, []⟩ ∧ d.plant.device id = .error ⟨.deviceNotFound id, []⟩) ∨
      ∃ e, w.other? id = some e ∧ c.plant.device id = .ok e.onRest ∧ d.plant.device id = .ok e.onRest := by
  obtain ⟨hc, hd⟩ := h.device?_eq hid hne
  unfold Plant.device
  rw [hc, hd]
  cases he : w.other? id with
  | none => exact Or.inl ⟨rfl, rfl⟩
  | some e => exact Or.inr ⟨e, rfl, rfl, rfl⟩

theorem requireScope (hid : b.id = a.id) (h : c.SameElsewhere w a b d) {dv : String} (hne : dv ≠ a.id)
    (r : Option String) : c.requireScope dv r = d.requireScope dv r := by
  unfold Context.requireScope
  rcases h.device_eq hid hne with ⟨hc, hd⟩ | ⟨e, -, hc, hd⟩
  · rw [hc, hd]
    rfl
  · rw [hc, hd]
    rfl

theorem requireActiveRail (hid : b.id = a.id) (h : c.SameElsewhere w a b d) (r : String) :
    c.requireActiveRail r = d.requireActiveRail r := by
  unfold Context.requireActiveRail Context.device
  rw [← h.scope]
  rcases h.device_eq hid h.apart with ⟨hc, hd⟩ | ⟨e, -, hc, hd⟩
  · rw [hc, hd]
    rfl
  · rw [hc, hd]
    rfl

/-! ### Nested contexts -/

theorem enter (h : c.SameElsewhere w a b d) {scope : Scope} (hne : scope.device ≠ a.id) :
    (c.enter scope).SameElsewhere w a b (d.enter scope) :=
  { h with scope := rfl, apart := hne }

theorem inRail (h : c.SameElsewhere w a b d) (r : String) : (c.inRail r).SameElsewhere w a b (d.inRail r) := by
  unfold Context.inRail
  rw [← h.scope]
  exact h.enter h.apart

theorem inRule (h : c.SameElsewhere w a b d) (id : String) : (c.inRule id).SameElsewhere w a b (d.inRule id) :=
  { h with ruleChain := congrArg (· ++ [id]) h.ruleChain }

theorem withVolts (h : c.SameElsewhere w a b d) (volts : Option Binary64) :
    (c.withVolts volts).SameElsewhere w a b (d.withVolts volts) :=
  { h with volts := rfl }

theorem detached (h : c.SameElsewhere w a b d) {id : String} (hne : id ≠ a.id) :
    (c.detached id).SameElsewhere w a b (d.detached id) :=
  { h with
    scope := rfl, ruleChain := rfl, detecting := congrArg (· ++ [id]) h.detecting, volts := rfl, apart := hne }

/-- Keys are chosen alike: the captures of the isolated device take no key of another. -/
theorem freeKey_eq (h : c.SameElsewhere w a b d) (own : Captures) (register : UInt8) :
    own.freeKey c.earlier (Captures.base c.scope.device register) =
      own.freeKey d.earlier (Captures.base c.scope.device register) := by
  refine Captures.freeKey_congr fun n => ?_
  have hkey : ¬Captures.IsKeyOf a.id (Captures.key (Captures.base c.scope.device register) n) := fun hown =>
    h.apart (Captures.IsKeyOf.unique ⟨register, n, rfl⟩ hown)
  simp only [Captures.Free, h.earlier _ hkey]

end Context.SameElsewhere

/-! ### The same steps -/

theorem State.SameRecords.get?_presence (h : s.SameRecords a.id t) {id : String} (hne : id ≠ a.id) (cycle : Cycle) :
    s.presence.get? id cycle = t.presence.get? id cycle := PresenceCache.get?_congr (h.presence id hne) cycle

theorem State.SameRecords.note (h : s.SameRecords a.id t) (x : Activity) :
    (Op.note x s).2.SameRecords a.id (Op.note x t).2 :=
  ⟨h.hardware, h.presence, h.findings, h.readings, h.captures, congrArg (· ++ [x]) h.activity⟩

theorem State.SameRecords.sameElsewhere (h : s.SameRecords a.id t) : s.SameElsewhere a.id t :=
  ⟨h.hardware, h.presence, by rw [h.findings], by rw [h.readings], fun _ _ => by rw [h.captures], by rw [h.activity]⟩

theorem bystanders_law (ha : w.Isolates a) (hid : b.id = a.id) : (bystanders w a b).Law where
  asks_of_contexts h := h
  closed h :=
    { calls := fun ht hu id hr => ht id (.head (h.plant ▸ hu) hr)
      detection := fun {id e as} ht he has => by
        have hne : id ≠ a.id := ht id .refl
        rw [(h.device?_eq hid hne).1] at he
        obtain ⟨e', he', rfl⟩ := Option.map_eq_some_iff.mp he
        refine ha.others e' (Surroundings.mem_slots_of_other? he').1 as ?_
        simp [Device.procedures, show e'.detection = some as from has] }
  hardware h := h.hardware
  known h ht hst := h.cycle ▸ hst.get?_presence (ht _ .refl) _
  detections h ht := by
    obtain ⟨hc, hd⟩ := h.device?_eq hid (ht _ .refl)
    rw [hc, hd, Option.map_map, Option.map_map]
    rfl
  detecting h := h.detecting
  detached h ht := h.detached (ht _ .refl)
  note _ _ _ _ hst := ⟨rfl, hst.note _⟩
  detectionVerdict outcome _ _ _ _ hst := by
    cases outcome with
    | ok present => exact ⟨rfl, hst⟩
    | error fault =>
      rw [Context.detectionVerdict_error, Context.detectionVerdict_error]
      exact ⟨rfl, hst.hardware, hst.presence, congrArg (· ++ [_]) hst.findings, hst.readings, hst.captures,
        congrArg (· ++ [_]) hst.activity⟩
  keepPresence {c d id} present h _ _ _ hst := by
    refine ⟨rfl, hst.hardware, fun other hother => ?_, hst.findings, hst.readings, hst.captures, hst.activity⟩
    simp only [Context.keepPresence_apply, PresenceCache.insert, Table.get?_insert, h.cycle, hst.presence other hother]
  rule? id h := by rw [h.plant, h.plant']; rfl
  requireCallable id h := by simp only [Context.requireCallable, h.ruleChain, h.maxRuleDepth]
  requireScope h ht := h.requireScope hid (ht _ (.single .gate)) _
  requireActiveRail r h := h.requireActiveRail hid r
  inRule id h := h.inRule id
  inDevice h ht := h.enter (ht _ (.single .gate))
  inRail r h := h.inRail r
  scope h := h.scope
  held h := h.held
  volts h := h.volts
  device {c d} h := by
    unfold Context.device
    rw [← h.scope]
    rcases h.device_eq hid h.apart with ⟨hc, hd⟩ | ⟨e, -, hc, hd⟩
    · exact Or.inl ⟨_, hc, hd⟩
    · exact Or.inr ⟨_, _, hc, hd, rfl, e.alike_onRest⟩
  accessed {c d s t k l} request failure h hst hkl := by
    have haccess : c.accessed s.presence request failure = d.accessed t.presence request failure := by
      simp only [Context.accessed, ← h.scope, ← h.cycle, ← h.detecting, hst.get?_presence h.apart]
    exact ⟨hkl, hst.presence, hst.findings, hst.readings, hst.captures, by rw [haccess, hst.activity]⟩
  addFinding severity code captured message h _ _ hst := by
    refine ⟨rfl, hst.hardware, hst.presence, ?_, hst.readings, hst.captures, hst.activity⟩
    simp only [Context.addFinding, Context.pushFinding, Op.update_apply, h.scope, hst.findings]
  capture {c d s t} register bytes h hst := by
    have hkey : s.captures.freeKey c.earlier (Captures.base c.scope.device register) =
        t.captures.freeKey d.earlier (Captures.base d.scope.device register) := by
      rw [h.freeKey_eq, hst.captures, h.scope]
    rw [Context.capture_apply, Context.capture_apply]
    refine ⟨hst.hardware, hst.presence, hst.findings, hst.readings, ?_, ?_⟩
    · rw [hkey, hst.captures]
    · rw [hkey, h.scope, hst.activity]
  recordReading name kind value h _ _ hst := by
    rw [Context.recordReading_apply, Context.recordReading_apply]
    refine ⟨rfl, hst.hardware, hst.presence, hst.findings, ?_, hst.captures, ?_⟩
    · simp only [h.scope, hst.readings]
    · simp only [Context.told, h.sensorsService, hst.activity]
  reading _ _ _ hst := by rw [hst.readings]

theorem bystanders_tellService (h : c.SameElsewhere w a b d) (notice : Notice) :
    (bystanders w a b).Same (c.tellService notice) (d.tellService notice) := fun _ _ hst => by
  rw [Context.tellService_apply, Context.tellService_apply]
  refine ⟨rfl, hst.hardware, hst.presence, hst.findings, hst.readings, hst.captures, ?_⟩
  simp only [Context.told, h.sensorsService, hst.activity]

theorem bystanders_startRail (hid : b.id = a.id) (h : c.SameElsewhere w a b d) (r : String) :
    (bystanders w a b).Same (c.startRail r) (d.startRail r) := by
  unfold Context.startRail
  rw [← h.sensorsService]
  split
  · unfold Context.device
    rw [← h.scope]
    rcases h.device_eq hid h.apart with ⟨hc, hd⟩ | ⟨e, he, hc, hd⟩
    · rw [hc, hd]
      exact fun _ _ hst => ⟨rfl, hst⟩
    · have hne : e.id ≠ a.id := (Surroundings.mem_slots_of_other? he).2 ▸ h.apart
      have hca : c.plant.chassisOf (e.onRest (α := α)).id = _ := h.plant ▸ Surroundings.chassisOf_plant_of_ne hne
      have hdb : d.plant.chassisOf (e.onRest (α := β)).id = _ :=
        h.plant' ▸ Surroundings.chassisOf_plant_of_ne (hid ▸ hne)
      rw [hc, hd]
      show (bystanders w a b).Same
        (do
          let chassis ← Op.ofExcept (c.plant.chassisOf (e.onRest (α := α)).id)
          c.tellService (.railStarted r e.inventoryPath chassis.inventoryPath))
        (do
          let chassis ← Op.ofExcept (d.plant.chassisOf (e.onRest (α := β)).id)
          d.tellService (.railStarted r e.inventoryPath chassis.inventoryPath))
      rw [hca, hdb]
      cases w.rackOf? e.id with
      | none => exact fun _ _ hst => ⟨rfl, hst⟩
      | some rack => exact bystanders_tellService h (.railStarted r e.inventoryPath rack.inventoryPath)
  · exact .pure ()

theorem bystanders_visitLaw (ha : w.Isolates a) (hid : b.id = a.id) : (bystanders w a b).VisitLaw where
  toTaskLaw := (bystanders_law ha hid).taskLaw
  withVolts volts h := h.withVolts volts
  startRail r h := bystanders_startRail hid h r
  endRail failed h := bystanders_tellService h (.railEnded failed)
  log _ _ _ hst := ⟨rfl, hst.note _⟩

end
end
end PowerRails
