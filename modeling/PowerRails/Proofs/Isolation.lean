import PowerRails.Bus.Simulated
import PowerRails.Proofs.Accounts

/-! # Isolation

Two controllers whose plants differ only in one isolated device stay the same but for that device, whatever is
called from outside and however often. -/

namespace PowerRails

/-- A call from outside. -/
inductive Step where
  | configure
  | monitor
  | clearStreaks
  | closeDevices
deriving DecidableEq, Repr

namespace Controller

section
variable {σ τ : Type}

/-- One call: the controller after it, and all that happened. -/
def act (ctl : Controller σ) : Step → Controller σ × List Activity
  | .configure => ctl.configure
  | .monitor => ctl.monitor
  | .clearStreaks => (ctl.clearStreaks, [])
  | .closeDevices => ctl.closeDevices

/-- Some calls: the controller after the last, and all that happened in each. -/
def acts (ctl : Controller σ) : List Step → Controller σ × List (List Activity)
  | [] => (ctl, [])
  | step :: steps => (((ctl.act step).1.acts steps).1, (ctl.act step).2 :: ((ctl.act step).1.acts steps).2)

/-! ### What is told at the end of a run -/

theorem elsewhere_tellFindings (ctl : Controller σ) (a : String) (findings : List Finding) :
    elsewhere Activity.device? a (ctl.tellFindings findings) =
      (elsewhere (some ·.device) a findings).map (.log <| .finding ·) := by
  have sinks : ∀ f, elsewhere Activity.device? a (ctl.sinks.map (.notice · (.finding f))) = [] := fun f =>
    elsewhere_eq_nil fun x hx d hd => by
      obtain ⟨sink, -, rfl⟩ := List.mem_map.mp hx
      cases hd
  induction findings with
  | nil => rfl
  | cons f fs ih =>
    have hhead : ctl.tellFindings (f :: fs) =
        [.log (.finding f)] ++ ctl.sinks.map (.notice · (.finding f)) ++ ctl.tellFindings fs := rfl
    rw [hhead, elsewhere_append, elsewhere_append, sinks, ih, List.append_nil]
    by_cases hf : f.device = a <;> simp [elsewhere, Activity.device?, LogEntry.device?, hf]

theorem elsewhere_tellPresence (ctl : Controller σ) (a : String) (presence : PresenceCache) (cycle : Cycle) :
    elsewhere Activity.device? a (ctl.tellPresence presence cycle) = [] := by
  refine elsewhere_eq_nil fun x hx d hd => ?_
  obtain ⟨e, -, hx⟩ := List.mem_flatMap.mp hx
  cases hknown : presence.get? e.id cycle with
  | none =>
    rw [hknown] at hx
    cases hx
  | some present =>
    rw [hknown] at hx
    obtain ⟨publisher, -, rfl⟩ := List.mem_map.mp hx
    cases hd

theorem elsewhere_run (ctl : Controller σ) (kind : RunKind) (a : String) :
    elsewhere Activity.device? a (ctl.run kind).2 =
      elsewhere Activity.device? a (ctl.visitAll kind).activity ++
        (elsewhere (some ·.device) a (ctl.visitAll kind).report.findings).map (.log <| .finding ·) := by
  unfold run
  refine (elsewhere_concat fun d hd => by cases hd).trans ?_
  rw [elsewhere_append, elsewhere_append, elsewhere_tellFindings, elsewhere_tellPresence, List.append_nil]
  rfl

/-! ### Closing buses -/

theorem closeDevice_alike {d : Device σ} {e : Device τ} {like : σ → τ → Prop} (hid : d.id = e.id)
    (hbus : d.bus.Alike like e.bus) {h : σ} {k : τ} (hk : like h k) :
    like (closeDevice h d).1 (closeDevice k e).1 ∧ (closeDevice h d).2 = (closeDevice k e).2 := by
  obtain ⟨hanswer, hleft⟩ := hbus.disconnect hk
  unfold closeDevice
  rw [hbus.isOpen hk, hid]
  split
  · rcases hd : d.bus.disconnect h with ⟨fault | _, h'⟩ <;> rcases he : e.bus.disconnect k with ⟨fault' | _, k'⟩ <;>
      rw [hd, he] at hanswer hleft <;> cases hanswer <;> exact ⟨hleft, rfl⟩
  · exact ⟨hk, rfl⟩

end

section
variable {ρ α β : Type} {w : Surroundings ρ} {a : Device α} {b : Device β} {x : Controller (ρ × α)}
  {y : Controller (ρ × β)}

theorem closeDevice_own (a : Device α) (h : ρ × α) :
    (closeDevice h a.onOwn).1.1 = h.1 ∧ elsewhere Activity.device? a.id (closeDevice h a.onOwn).2 = [] := by
  have hrest : ((a.onOwn (ρ := ρ)).bus.disconnect h).2.1 = h.1 := rfl
  unfold closeDevice
  split
  · rcases hd : (a.onOwn (ρ := ρ)).bus.disconnect h with ⟨fault | _, h'⟩ <;> rw [hd] at hrest
    · refine ⟨hrest, elsewhere_eq_nil fun x hx d hd => ?_⟩
      rw [List.mem_singleton.mp hx] at hd
      exact (Option.some.inj hd).symm
    · exact ⟨hrest, rfl⟩
  · exact ⟨rfl, rfl⟩

theorem closeDevice_other {h : ρ × α} {k : ρ × β} (hk : h.1 = k.1) (e : Device ρ) :
    (closeDevice h e.onRest).1.1 = (closeDevice k e.onRest).1.1 ∧
      (closeDevice h e.onRest).2 = (closeDevice k e.onRest).2 := by
  have hbus := e.alike_onRest (α := α) (β := β)
  have hid : (e.onRest (α := α)).id = (e.onRest (α := β)).id := rfl
  exact closeDevice_alike hid hbus hk

theorem closeDevice_fill (hid : b.id = a.id) {h : ρ × α} {k : ρ × β} (hk : h.1 = k.1) (slot : Option (Device ρ)) :
    (closeDevice h (a.fill slot)).1.1 = (closeDevice k (b.fill slot)).1.1 ∧
      elsewhere Activity.device? a.id (closeDevice h (a.fill slot)).2 =
        elsewhere Activity.device? a.id (closeDevice k (b.fill slot)).2 := by
  cases slot with
  | none =>
    obtain ⟨hown, hnone⟩ := closeDevice_own a h
    obtain ⟨hown', hnone'⟩ := closeDevice_own b k
    exact ⟨hown.trans (hk.trans hown'.symm), hnone.trans (hid ▸ hnone').symm⟩
  | some e =>
    obtain ⟨hother, htold⟩ := closeDevice_other hk e
    exact ⟨hother, congrArg (elsewhere Activity.device? a.id) htold⟩

/-! ### Single calls -/

theorem run_sameElsewhere (ha : w.Isolates a) (hb : w.Isolates b) (hid : b.id = a.id) (h : x.SameElsewhere w a b y)
    (kind : RunKind) : (x.run kind).1.SameElsewhere w a b (y.run kind).1 ∧
      elsewhere Activity.device? a.id (x.run kind).2 = elsewhere Activity.device? a.id (y.run kind).2 := by
  have hall := visitAll_sameElsewhere ha hb hid h kind
  refine ⟨?_, by rw [elsewhere_run, elsewhere_run, hall.activity, hall.report.findings]⟩
  exact
    { plant := h.plant, plant' := h.plant', hardware := hall.hardware, settings := h.settings,
      cycles := congrArg (· + 1) h.cycles, presence := hall.presence, streaks := hall.streaks,
      lastReport := .some { hall.report with finished := rfl }, sensorsService := h.sensorsService }

theorem closeDevices_sameElsewhere (hid : b.id = a.id) (h : x.SameElsewhere w a b y) :
    x.closeDevices.1.SameElsewhere w a b y.closeDevices.1 ∧
      elsewhere Activity.device? a.id x.closeDevices.2 = elsewhere Activity.device? a.id y.closeDevices.2 := by
  unfold closeDevices
  rw [h.plant, h.plant', Surroundings.devices_plant, Surroundings.devices_plant, List.foldl_map, List.foldl_map]
  have hclosed := List.foldl_rel (l := w.slots)
    (r := fun (s : (ρ × α) × List Activity) (t : (ρ × β) × List Activity) =>
      s.1.1 = t.1.1 ∧ elsewhere Activity.device? a.id s.2 = elsewhere Activity.device? a.id t.2)
    (f := fun s slot => ((closeDevice s.1 (a.fill slot)).1, s.2 ++ (closeDevice s.1 (a.fill slot)).2))
    (g := fun t slot => ((closeDevice t.1 (b.fill slot)).1, t.2 ++ (closeDevice t.1 (b.fill slot)).2))
    (a := (x.hardware, [])) (b := (y.hardware, [])) ⟨h.hardware, rfl⟩ fun slot _ s t hst => by
      obtain ⟨hhardware, hactivity⟩ := hst
      obtain ⟨hclosed, htold⟩ := closeDevice_fill hid hhardware slot
      refine ⟨hclosed, ?_⟩
      rw [elsewhere_append, elsewhere_append, hactivity, htold]
  exact ⟨{ h with plant := rfl, plant' := rfl, hardware := hclosed.1 }, hclosed.2⟩

theorem act_sameElsewhere (ha : w.Isolates a) (hb : w.Isolates b) (hid : b.id = a.id) (h : x.SameElsewhere w a b y)
    (step : Step) : (x.act step).1.SameElsewhere w a b (y.act step).1 ∧
      elsewhere Activity.device? a.id (x.act step).2 = elsewhere Activity.device? a.id (y.act step).2 := by
  cases step with
  | configure => exact run_sameElsewhere ha hb hid h .configure
  | monitor => exact run_sameElsewhere ha hb hid h .monitor
  | clearStreaks => exact ⟨{ h with streaks := fun _ _ => rfl }, rfl⟩
  | closeDevices => exact closeDevices_sameElsewhere hid h

/-! ### All calls -/

/-- Whatever is called from outside, in whatever order, a device that is apart from its surroundings may be replaced
by another one and nothing changes elsewhere: not the reports, the presence or the failure streaks of other
devices, nor anything that is done on their behalf. -/
theorem acts_sameElsewhere (ha : w.Isolates a) (hb : w.Isolates b) (hid : b.id = a.id) (h : x.SameElsewhere w a b y)
    (steps : List Step) : (x.acts steps).1.SameElsewhere w a b (y.acts steps).1 ∧
      (x.acts steps).2.map (elsewhere Activity.device? a.id) =
        (y.acts steps).2.map (elsewhere Activity.device? a.id) := by
  induction steps generalizing x y with
  | nil => exact ⟨h, rfl⟩
  | cons step steps ih =>
    obtain ⟨hafter, hactivity⟩ := act_sameElsewhere ha hb hid h step
    obtain ⟨hlast, hrest⟩ := ih hafter
    exact ⟨hlast, congrArg₂ List.cons hactivity hrest⟩

end
end Controller

/-! ### A supply that is replaced -/

/-- A fan that asks for itself whenever it is monitored. -/
def askingFan : Device RegisterFile where
  id := "fan"
  isRegulator := false
  inventoryPath := ""
  bus := RegisterFile.bus ⟨"i2c0", 0x20⟩
  monitoring := some ⟨.comparePresence "fan" true, []⟩

/-- A chassis with a gap, and a fan beside it that asks. -/
def fanSite : Surroundings RegisterFile := ⟨[⟨"chassis", "", [none, some askingFan]⟩], []⟩

/-- A supply that keeps a register whenever it is monitored. -/
def keepingSupply : Device RegisterFile where
  id := "psu"
  isRegulator := true
  inventoryPath := ""
  bus := RegisterFile.bus ⟨"i2c1", 0x40⟩
  monitoring := some ⟨.capture ⟨0x78, 2, by decide, by decide⟩, []⟩

/-- A supply that cannot be configured, since nothing answers on its bus. -/
def silentSupply : Device Unit where
  id := "psu"
  isRegulator := false
  inventoryPath := "/silent"
  bus :=
    { endpoint := ⟨"i2c2", 0x41⟩, isOpen := fun _ => true, connect := fun _ => (.ok (), ()),
      disconnect := fun _ => (.error ⟨⟨"i2c2", 0x41⟩, .notOpen⟩, ()),
      read := fun register _ _ => (.error ⟨⟨"i2c2", 0x41⟩, .timedOut register⟩, ()),
      write := fun register _ _ => (.error ⟨⟨"i2c2", 0x41⟩, .timedOut register⟩, ()) }
  configuration := some ⟨none, .capture ⟨0x79, 1, by decide, by decide⟩, []⟩

/-- A supply that does nothing but keep registers is apart from the fan. -/
theorem isolates_of_captures {α : Type} {a : Device α} (hid : a.id = "psu")
    (hown : ∀ as ∈ a.procedures, ∃ block, as = ⟨.capture block, []⟩) : fanSite.Isolates a where
  distinct d hd := by
    rw [hid]
    rcases List.mem_pair.mp hd with hd | hd <;> cases hd
    decide
  own as has id hreach := by
    obtain ⟨block, rfl⟩ := hown as has
    rcases hreach.cases_head with heq | ⟨_, hcalls, hreach⟩
    · cases heq
    cases hcalls
    rcases hreach.cases_head with heq | ⟨_, hcalls, -⟩
    · cases heq
    · cases hcalls
  others d hd as has id hreach := by
    rw [hid]
    rcases List.mem_pair.mp hd with hd | hd <;> cases hd
    cases List.mem_singleton.mp has
    rcases hreach.cases_head with heq | ⟨_, hcalls, hreach⟩
    · cases heq
    cases hcalls
    rcases hreach.cases_head with heq | ⟨_, hcalls, hreach⟩
    · cases heq
    cases hcalls
    cases Plant.reaches_presence hreach
    decide

/-- The fan is managed alike next to either supply. -/
theorem fan_next_to_either_supply :
    let x : Controller (RegisterFile × RegisterFile) := { plant := fanSite.plant keepingSupply, hardware := ({}, {}) }
    let y : Controller (RegisterFile × Unit) := { plant := fanSite.plant silentSupply, hardware := ({}, ()) }
    (x.acts [.configure, .monitor, .clearStreaks, .closeDevices]).1.SameElsewhere fanSite keepingSupply silentSupply
        (y.acts [.configure, .monitor, .clearStreaks, .closeDevices]).1 ∧
      (x.acts [.configure, .monitor, .clearStreaks, .closeDevices]).2.map (elsewhere Activity.device? "psu") =
        (y.acts [.configure, .monitor, .clearStreaks, .closeDevices]).2.map (elsewhere Activity.device? "psu") := by
  have hkeeping : fanSite.Isolates keepingSupply :=
    isolates_of_captures rfl fun as has => ⟨_, List.mem_singleton.mp has⟩
  have hsilent : fanSite.Isolates silentSupply :=
    isolates_of_captures rfl fun as has => ⟨_, List.mem_singleton.mp has⟩
  exact Controller.acts_sameElsewhere hkeeping hsilent rfl
    ⟨rfl, rfl, rfl, rfl, rfl, fun _ _ => rfl, fun _ _ => rfl, .none, rfl⟩ _

end PowerRails
