import PowerRails.Bus.Simulated
import PowerRails.Proofs.Attribution
import PowerRails.Proofs.Boundary

/-! # Where recorded faults are located

The record of a fault tells the device that failed and a rail. A rail whose frame the fault has passed is one of that
device. Without such a frame the rail is that of the failed access, and the access may have been made on another
device, whose scope was entered on the way: then the rail belongs to the other device, and the record may tell a rail
that its device does not have. -/

namespace PowerRails

section
variable {σ : Type}

/-- If a scope names a rail, then the device that it names has this rail. -/
def Plant.Holds (p : Plant σ) (scope : Scope) : Prop :=
  ∀ rail, scope.rail = some rail → ∃ d ∈ p.devices, d.id = scope.device ∧ ∃ r ∈ d.rails, r.id = rail

/-- The rail in the record of a fault is that of an access by another device, and the recorded device has no such
rail. -/
structure RecordedFault.Misplaced (f : RecordedFault) (p : Plant σ) (other rail : String) : Prop where
  access : ∃ register details, f.fault.cause = .busAccess other (some rail) register details
  frames : f.fault.frames.findSome? Frame.rail? = none
  held : p.Holds ⟨other, some rail⟩
  other_ne : other ≠ f.device
  not_held : ¬ p.Holds ⟨f.device, some rail⟩

theorem Plant.holds_of_rail {p : Plant σ} {d : Device σ} {r : Rail} (hd : d ∈ p.devices) (hr : r ∈ d.rails) :
    p.Holds ⟨d.id, some r.id⟩ := by
  rintro _ ⟨⟩
  exact ⟨d, hd, rfl, r, hr, rfl⟩

/-! ### Active scopes -/

section
variable {c : Context σ} {kind : RunKind} {d : Device σ} {s : State σ} {k k' : Call σ}

/-- A rail that was checked is one of its device. -/
theorem Plant.Places.holds {p : Plant σ} {scope : Scope} (h : p.Places scope) : p.Holds scope := fun rail hrail => by
  obtain ⟨d, hd, hrails⟩ := h
  obtain ⟨hmem, hid⟩ := Plant.device?_eq_some hd
  exact ⟨d, hmem, hid, hrails rail hrail⟩

/-- Every scope that is entered is one of the plant. -/
theorem Call.Makes.holds (h : k.Makes k') (hk : k.context.plant.Holds k.context.scope) :
    k'.context.plant.Holds k'.context.scope := by
  cases h with
  | inDevice _ hscope => exact (Context.places_of_requireScope hscope).holds
  | inRail hrail => exact (Context.places_of_requireActiveRail hrail).holds
  | detection => exact nofun
  | _ => exact hk

theorem Call.holds_of_path (hpath : Relation.ReflTransGen Call.Passes k k')
    (hk : k.context.plant.Holds k.context.scope) : k'.context.plant.Holds k'.context.scope := by
  induction hpath with
  | refl => exact hk
  | tail _ hpasses ih => exact hpasses.makes.holds ih

theorem Context.WorkMakes.holds {rail : Option String} (h : c.WorkMakes kind d s rail k)
    (hc : c.plant.Holds c.scope) : k.context.plant.Holds k.context.scope := by
  cases h with
  | own h => cases h <;> exact hc
  | rail _ _ _ h =>
    have hrail := (places_of_requireActiveRail h.active).holds
    cases h <;> exact hrail

/-- A failed access is raised for the active device and rail. -/
theorem Call.Raises.access {fault : Fault} {t : State σ} {device details : String} {rail : Option String}
    {register : UInt8} (h : k.Raises fault t) (hcause : fault.cause = .busAccess device rail register details) :
    k.context.scope = ⟨device, rail⟩ := by
  have never : ∀ {inner : Fault}, inner.cause.isAccess = false →
      inner.cause ≠ .busAccess device rail register details := fun hinner hcause => by
    rw [hcause] at hinner
    cases hinner
  cases h with
  | @single c a x s inner t hx hinner =>
    have hstops := Context.stops_single hx s
    rw [hinner] at hstops
    cases hstops with
    | refusal _ hsimple => exact absurd hcause (never hsimple.access)
    | taken =>
      cases hcause
      rfl
    | failure =>
      cases hcause
      rfl
  | noScope _ hscope => exact absurd hcause (never (Context.simple_of_requireScope hscope).access)
  | noRail hrail => exact absurd hcause (never (Context.simple_of_requireActiveRail hrail).access)
  | noRule => cases hcause
  | notCallable _ hc =>
    obtain ⟨reason, rfl, -⟩ := Context.requireCallable_eq_error hc
    cases hcause
  | noDevice => cases hcause
  | circular => cases hcause

/-! ### Work on a device -/

/-- A failed access in the work on a device is one of a scope of the plant. -/
theorem Context.Arises.access {rail rail' : Option String} {rules : List String} {device details : String}
    {register : UInt8} (h : c.Arises kind d s rail rules (.busAccess device rail' register details))
    (hc : c.plant.Holds c.scope) : c.plant.Holds ⟨device, rail'⟩ := by
  generalize hcause : Cause.busAccess device rail' register details = cause at h
  cases h with
  | @call _ k k' raised t hmakes hpath hraises =>
    have hleads : k.Leads k' := Relation.ReflTransGen.mono (fun _ _ h => h.makes) _ _ hpath
    have hplant : k'.context.plant = c.plant := hleads.inside.plant.trans hmakes.context_eq.1
    have hholds := Call.holds_of_path hpath (hmakes.holds hc)
    rwa [hplant, hraises.access hcause.symm] at hholds
  | refusal _ _ _ hrefuses =>
    have haccess := hrefuses.simple.access
    rw [← hcause] at haccess
    cases haccess

/-- Faults pass the frame of a rail only if the device has it. -/
theorem Context.Arises.rail {rail : String} {rules : List String} {cause : Cause}
    (h : c.Arises kind d s (some rail) rules cause) : ∃ r ∈ d.rails, r.id = rail := by
  cases h with
  | call hmakes =>
    cases hmakes with
    | @rail before r after _ _ _ _ hrails => exact ⟨r, hrails ▸ by simp, rfl⟩
  | @refusal before r after _ _ _ _ _ hrails => exact ⟨r, hrails ▸ by simp, rfl⟩

/-- The rail frame that a fault has passed is that of the rail at which it arose. -/
theorem Provenance.rail_frame {fault : Fault} {rail : Option String} {inside : List Frame}
    (h : Provenance c kind d s fault rail inside) : fault.frames.findSome? Frame.rail? = rail := by
  have hinside : inside.findSome? Frame.rail? = none :=
    List.findSome?_eq_none_iff.mpr fun frame hframe => (h.plain frame hframe).2
  rw [h.frames]
  cases rail with
  | none => exact hinside
  | some rail => rfl

end

/-! ### Runs -/

namespace Controller
variable {ctl : Controller σ} {kind : RunKind} {before : List (Chassis σ × Device σ)} {place : Chassis σ × Device σ}
  {f : RecordedFault}

theorem FailsAt.rail_eq (h : ctl.FailsAt kind before place f) : f.rail = f.fault.rail? := by
  rw [h.recorded]
  rfl

/-- The record of a fault tells a rail that its device has, unless it tells the rail of another device. -/
theorem FailsAt.holds_iff (h : ctl.FailsAt kind before place f) :
    ctl.plant.Holds ⟨f.device, f.rail⟩ ↔ ∀ other rail, ¬ f.Misplaced ctl.plant other rail := by
  obtain ⟨after, hplaces⟩ := h.visited
  have hplace : place ∈ ctl.plant.places := hplaces ▸ by simp
  obtain ⟨s, u, -, hwork⟩ := h.work
  obtain ⟨rail, inside, hprovenance⟩ := provenance_of_work rfl hwork
  constructor
  · rintro hholds other rail ⟨⟨register, details, hcause⟩, hframes, -, -, hnot⟩
    have hrail : f.rail = some rail := by rw [h.rail_eq, Fault.rail?, hframes, hcause, Option.none_or]
    exact hnot (hrail ▸ hholds)
  · intro hnone
    rw [h.rail_eq, Fault.rail?, hprovenance.rail_frame]
    cases rail with
    | some rail =>
      obtain ⟨r, hr, rfl⟩ := hprovenance.origin.rail
      rw [h.device_eq, Option.some_or]
      exact Plant.holds_of_rail (Plant.mem_devices_of_place hplace) hr
    | none =>
      rw [Option.none_or]
      cases hcause : f.fault.cause with
      | busAccess other rail register details =>
        cases rail with
        | none => exact nofun
        | some rail =>
          -- The rail belongs to the device that made the access, whichever that is.
          have hother : ctl.plant.Holds ⟨other, some rail⟩ := (hcause ▸ hprovenance.origin).access nofun
          by_contra hnot
          refine hnone other rail ⟨⟨register, details, hcause⟩, hprovenance.rail_frame, hother, ?_, hnot⟩
          rintro rfl
          exact hnot hother
      | _ => exact nofun

/-- The record of every fault in a report, and the finding that is made of it, tell a rail that the device has, or they
tell the rail of another device in whose scope an access failed. They tell no rail that the device does not have
exactly if the second is not the case. -/
theorem run_locates_faults (ctl : Controller σ) (kind : RunKind) :
    ∃ r, (ctl.run kind).1.lastReport = some r ∧ ∀ f ∈ r.faults, ∃ before place severity,
      ctl.TellsOf kind before place f severity ∧ f.device = place.2.id ∧
      (∀ x ∈ severity.map (faultFinding · f), x.device = f.device ∧ x.rail = f.rail) ∧
      (ctl.plant.Holds ⟨f.device, f.rail⟩ ↔ ∀ other rail, ¬ f.Misplaced ctl.plant other rail) := by
  refine ⟨_, rfl, fun f hf => ?_⟩
  obtain ⟨before, place, hfails⟩ := failsAt_of_mem hf
  refine ⟨before, place, _, hfails.tellsOf, hfails.device_eq, fun x hx => ?_, hfails.holds_iff⟩
  obtain ⟨severity, -, rfl⟩ := Option.map_eq_some_iff.mp hx
  exact ⟨rfl, rfl⟩

end Controller
end

/-! ### A regulator that works on a rail of a supply -/

/-- A supply with one rail. -/
def railedSupply : Device RegisterFile where
  id := "psu"
  isRegulator := true
  inventoryPath := ""
  bus := RegisterFile.bus ⟨"i2c0", 0x40⟩
  rails := [{ id := "12v" }]

/-- A regulator without rails, which is configured by writing to a rail of the supply. -/
def railless : Device RegisterFile where
  id := "vrm"
  isRegulator := true
  inventoryPath := ""
  bus := RegisterFile.bus ⟨"i2c0", 0x41⟩
  configuration := some ⟨none,
    ⟨.inDevice "psu" (some "12v") ⟨.writeRegister ⟨0x10, [1], none, by decide, by decide, nofun⟩, []⟩, []⟩⟩

/-- The write of the regulator is not acknowledged. -/
def borrowing : Controller RegisterFile where
  plant := ⟨[⟨"chassis", "", [railless, railedSupply]⟩], []⟩
  hardware := { faults := ⟨[(0x10, .nack)]⟩ }

namespace Controller

/-- The visit of the regulator fails at the write, and the rail of the supply is recorded. -/
theorem fails_railless : ∃ f,
    borrowing.FailsAt .configure [] (⟨"chassis", "", [railless, railedSupply]⟩, railless) f ∧ f.rail = some "12v" := by
  let c := borrowing.visitContext 0 {} "vrm"
  let s : State RegisterFile :=
    { hardware := borrowing.hardware, presence := PresenceCache.insert {} "vrm" true 0 }
  let t := (Op.note (.log (.deviceVisited .configure "vrm")) s).2
  have hhere : c.resolvePresence "vrm" { hardware := borrowing.hardware } = (.ok true, s) :=
    (Context.resolvePresence_of_device rfl rfl).trans rfl
  have hthere : (c.withVolts none).resolvePresence "psu" t =
      (.ok true, { t with presence := t.presence.insert "psu" true 0 }) :=
    (Context.resolvePresence_of_device rfl rfl).trans rfl
  have hfails : ∃ fault, (c.work .configure railless t).1 = .error fault ∧ fault.rail? = some "12v" := by
    show ∃ fault, (c.configureDevice railless t).1 = .error fault ∧ _
    simp only [Context.configureDevice, railless, Context.applyConfiguration, Context.inOrder, Context.perform,
      Op.framed_apply, Op.bind_apply, hthere]
    exact ⟨_, rfl, rfl⟩
  obtain ⟨fault, hfault, hrail⟩ := hfails
  have hvisited : (Op.note (.log (.deviceVisited .configure "vrm")) >>= fun _ => c.work .configure railless) s =
      (.error fault, (c.work .configure railless t).2) := Prod.ext hfault rfl
  let chassis : Chassis RegisterFile := ⟨"chassis", "", [railless, railedSupply]⟩
  have hvisit : (borrowing.visitOf .configure 0 (borrowing.beginning .configure) (chassis, railless)).fault =
      some fault := congrArg VisitOutcome.fault (Context.visit_of_work_fault hhere hvisited)
  let outcome := borrowing.visitOf .configure 0 (borrowing.beginning .configure) (chassis, railless)
  exact ⟨faultOf (chassis, railless) fault outcome, ⟨⟨[(chassis, railedSupply)], rfl⟩, hvisit, rfl⟩, hrail⟩

/-- The record tells a rail of the supply as one of the regulator, which has none. -/
theorem borrowed_rail_recorded :
    ¬ ∀ (ctl : Controller RegisterFile) (kind : RunKind) (r : Report), ctl.plant.validate = .ok () →
      (ctl.run kind).1.lastReport = some r → ∀ f ∈ r.faults, ctl.plant.Holds ⟨f.device, f.rail⟩ := by
  intro h
  obtain ⟨f, hfails, hrail⟩ := fails_railless
  obtain ⟨r, hr, hfaults, -⟩ := hfails.tellsOf.stays
  have hmem : f ∈ r.faults := hfaults.subset (hfails.tellsOf.faults ▸ List.mem_append_right _ List.mem_cons_self)
  obtain ⟨d, hd, hid, rail, hmemRail, -⟩ := h borrowing .configure r rfl hr f hmem "12v" hrail
  rw [hfails.device_eq] at hid
  rcases List.mem_pair.mp hd with rfl | rfl
  · cases hmemRail
  · exact absurd (show railedSupply.id = railless.id from hid) (by decide)

end Controller
end PowerRails
