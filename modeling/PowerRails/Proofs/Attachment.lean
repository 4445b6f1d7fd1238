import PowerRails.Bus.Simulated
import PowerRails.Proofs.Numbering
import PowerRails.Proofs.Rows

/-! # Captures attached to faults

A recorded fault comes with captures: those that were made in the visit that failed. What earlier visits captured
from the same device, in actions on it or in its presence detection, is in the report and not in the record. -/

namespace PowerRails
namespace Controller

variable {σ : Type} {ctl : Controller σ} {kind : RunKind} {before : List (Chassis σ × Device σ)}
  {place : Chassis σ × Device σ} {f : RecordedFault}

/-- What happened in a run up to a fault: the visits before, and then the visit that failed. -/
theorem FailsAt.activity (h : ctl.FailsAt kind before place f) :
    ∃ later, (ctl.run kind).2 = .log (.runStarted kind) :: (ctl.progress kind before).activity
      ++ (ctl.visitOf kind ctl.cycles (ctl.progress kind before) place).state.activity
      ++ .log (.deviceFailed f.chassis f.device f.fault f.captures) :: later := by
  obtain ⟨after, hplaces⟩ := h.visited
  obtain ⟨rest, hrest⟩ : (ctl.progress kind (before ++ [place])).activity <+:
      (ctl.progress kind (before ++ [place] ++ after)).activity := activity_progress _ after
  obtain ⟨completion, hrun⟩ := ctl.activity_run kind
  have hdone : (ctl.progress kind (before ++ [place])).activity = (ctl.progress kind before).activity
      ++ (ctl.visitOf kind ctl.cycles (ctl.progress kind before) place).state.activity
      ++ [.log (.deviceFailed f.chassis f.device f.fault f.captures)] := by
    rw [progress_concat, visitPlace_of_some h.fault, h.recorded]
    rfl
  rw [← List.append_cons, ← hplaces, progress_places, hdone] at hrest
  rw [hrun, ← hrest]
  exact ⟨_, by simp only [List.append_assoc, List.cons_append, List.nil_append]; rfl⟩

/-- A capture that an earlier visit made from the failing device is under none of the keys in the record. -/
theorem FailsAt.missing (h : ctl.FailsAt kind before place f) {x : Capture}
    (hx : x ∈ Activity.captures (ctl.progress kind before).activity) : f.captures.get? x.key = none := by
  have htallies : (ctl.visitOf kind ctl.cycles (ctl.progress kind before) place).state.Tallies _ _ :=
    tallies_visitOf (ctl.numbers_progress kind before)
  have hnodup := htallies.all.nodup_keys
  rw [List.map_append] at hnodup
  rw [h.recorded]
  refine Option.eq_none_iff_forall_not_mem.mpr fun value hvalue => ?_
  obtain ⟨y, hy, hkey, -⟩ := (htallies.own x.key value).mp hvalue
  exact List.disjoint_of_nodup_append hnodup (List.mem_map_of_mem hx) (List.mem_map.mpr ⟨y, hy, hkey⟩)

/-- The record of a fault holds what was captured in the visit that failed, and nothing that earlier visits captured.
So it holds all that was captured from its device before it failed exactly if no earlier visit captured from it. -/
theorem run_attaches_captures (ctl : Controller σ) (kind : RunKind) :
    ∃ r, (ctl.run kind).1.lastReport = some r ∧ ∀ f ∈ r.faults, ∃ before place, ctl.FailsAt kind before place f ∧
      let earlier := (ctl.progress kind before).activity
      let own := (ctl.visitOf kind ctl.cycles (ctl.progress kind before) place).state.activity
      (∃ later, (ctl.run kind).2 = .log (.runStarted kind) :: earlier ++ own
        ++ .log (.deviceFailed f.chassis f.device f.fault f.captures) :: later) ∧
      (∀ x ∈ Activity.captures (earlier ++ own), r.captures.get? x.key = some (Hex.bytes x.bytes)) ∧
      (∀ key value, f.captures.get? key = some value ↔
        ∃ x ∈ Activity.captures own, x.key = key ∧ Hex.bytes x.bytes = value) ∧
      ((∀ x ∈ Activity.captures (earlier ++ own), x.device = f.device →
          f.captures.get? x.key = some (Hex.bytes x.bytes)) ↔
        ∀ x ∈ Activity.captures earlier, x.device ≠ f.device) := by
  refine ⟨_, rfl, fun f hf => ?_⟩
  obtain ⟨before, place, hfails⟩ := failsAt_of_mem hf
  refine ⟨before, place, hfails, ?_⟩
  intro earlier own
  have hown : f.captures.Holds (Activity.captures own) := by
    rw [hfails.recorded]
    exact (tallies_visitOf (ctl.numbers_progress kind before)).own
  obtain ⟨later, hlater⟩ := hfails.activity
  refine ⟨⟨later, hlater⟩, fun x hx => ?_, hown, ?_⟩
  · have hnumbers := ctl.numbers_progress kind ctl.plant.places
    rw [progress_places, ← captures_run, hlater] at hnumbers
    refine hnumbers.holds.get? ?_
    rw [List.cons_append, List.cons_append, ← List.singleton_append, Activity.captures_append, Activity.captures_append]
    exact List.mem_append_right _ (List.mem_append_left _ hx)
  · rw [Activity.captures_append]
    constructor
    · intro hall x hx hdevice
      have hvalue := hall x (List.mem_append_left _ hx) hdevice
      rw [hfails.missing hx] at hvalue
      cases hvalue
    · intro hnone x hx hdevice
      rcases List.mem_append.mp hx with hx | hx
      · exact absurd hdevice (hnone x hx)
      · exact hown.get? hx

end Controller

/-! ### A supply that is asked for early -/

/-- A supply whose detection captures a register, and which is to be set to a voltage that nobody gives. -/
def voltlessSupply : Device RegisterFile where
  id := "psu"
  isRegulator := true
  inventoryPath := ""
  bus := RegisterFile.bus ⟨"i2c0", 0x40⟩
  detection := some ⟨.capture ⟨0x79, 3, by decide, by decide⟩, []⟩
  configuration := some ⟨none, ⟨.setVout ⟨none, none, false, nofun, nofun⟩, []⟩⟩

/-- A regulator that asks for the supply before it is the turn of the supply. -/
def earlyAsker : Device RegisterFile where
  id := "vrm"
  isRegulator := true
  inventoryPath := ""
  bus := RegisterFile.bus ⟨"i2c0", 0x41⟩
  configuration := some ⟨none, ⟨.comparePresence "psu" true, []⟩⟩

/-- The asker is visited first. -/
def askingEarly : Controller RegisterFile where
  plant := ⟨[⟨"chassis", "", [earlyAsker, voltlessSupply]⟩], []⟩
  hardware := {}

namespace Context

theorem work_voltlessSupply (c : Context RegisterFile) (s : State RegisterFile) :
    ∃ fault, c.work .configure voltlessSupply s = (.error fault, s) := by
  refine ⟨?fault, ?_⟩
  show c.configureDevice voltlessSupply s = _
  simp only [configureDevice, voltlessSupply, applyConfiguration, inOrder, perform]
  rfl

theorem work_earlyAsker {c : Context RegisterFile} {s t : State RegisterFile} {present : Bool}
    (h : (c.withVolts none).resolvePresence "psu" s = (.ok present, t)) :
    c.work .configure earlyAsker s = (.ok (), t) := by
  show c.configureDevice earlyAsker s = _
  simp only [configureDevice, earlyAsker, applyConfiguration, inOrder, perform, Op.framed_apply, Op.bind_apply, h]
  rfl

end Context

namespace Controller

/-- The first visit captures from the supply, which is there. -/
theorem captures_earlyAsker (chassis : Chassis RegisterFile) :
    Activity.captures (askingEarly.progress .configure [(chassis, earlyAsker)]).activity =
        [⟨"psu", 0x79, "psu_register_0x79", [0, 0, 0]⟩] ∧
      (askingEarly.progress .configure [(chassis, earlyAsker)]).presence.get? "psu" 0 = some true := by
  let c := askingEarly.visitContext 0 {} "vrm"
  let s : State RegisterFile := { hardware := {}, presence := PresenceCache.insert {} "vrm" true 0 }
  let t := (Op.note (.log (.deviceVisited .configure "vrm")) s).2
  have hhere : c.resolvePresence "vrm" { hardware := {} } = (.ok true, s) :=
    (Context.resolvePresence_of_device rfl rfl).trans rfl
  have hdetection : (c.withVolts none).resolvePresence "psu" t = _ :=
    Context.resolvePresence_of_detection rfl rfl List.not_mem_nil rfl
  simp only [Context.inOrder, Context.perform] at hdetection
  have hfound : ((c.withVolts none).resolvePresence "psu" t).1 = .ok true ∧
      Activity.captures ((c.withVolts none).resolvePresence "psu" t).2.activity =
        [⟨"psu", 0x79, "psu_register_0x79", [0, 0, 0]⟩] ∧
      ((c.withVolts none).resolvePresence "psu" t).2.presence.get? "psu" 0 = some true := by
    rw [hdetection]
    decide +kernel
  rcases hasked : (c.withVolts none).resolvePresence "psu" t with ⟨answer, u⟩
  rw [hasked] at hfound
  obtain ⟨rfl, hcaptures, hknown⟩ := hfound
  have hvisit : askingEarly.visitOf .configure 0 (askingEarly.beginning .configure) (chassis, earlyAsker) = _ :=
    Context.visit_of_work hhere (Context.work_earlyAsker hasked)
  have hplace : askingEarly.progress .configure [(chassis, earlyAsker)] =
      askingEarly.visitPlace .configure 0 (askingEarly.beginning .configure) (chassis, earlyAsker) := rfl
  rw [hplace, visitPlace_made, visitPlace_presence, hvisit]
  exact ⟨hcaptures, hknown⟩

/-- What the detection of a supply captures before it is the turn of the supply is not in the record of its fault. -/
theorem early_capture_not_attached :
    ¬ ∀ (ctl : Controller RegisterFile) (kind : RunKind) (r : Report), ctl.plant.validate = .ok () →
      (ctl.run kind).1.lastReport = some r → ∀ f ∈ r.faults, ∀ before after,
        (ctl.run kind).2 = before ++ .log (.deviceFailed f.chassis f.device f.fault f.captures) :: after →
          ∀ x ∈ Activity.captures before, x.device = f.device →
            f.captures.get? x.key = some (Hex.bytes x.bytes) := by
  intro h
  let chassis : Chassis RegisterFile := ⟨"chassis", "", [earlyAsker, voltlessSupply]⟩
  let p := askingEarly.progress .configure [(chassis, earlyAsker)]
  obtain ⟨hcaptures, hknown⟩ := captures_earlyAsker chassis
  let c := askingEarly.visitContext 0 p.report.captures "psu"
  let s : State RegisterFile := { hardware := p.hardware, presence := p.presence }
  have hhere : c.resolvePresence "psu" s = (.ok true, s) := Context.resolvePresence_of_cached hknown
  obtain ⟨fault, hwork⟩ := c.work_voltlessSupply (Op.note (.log (.deviceVisited .configure "psu")) s).2
  have hvisited : (Op.note (.log (.deviceVisited .configure "psu")) >>= fun _ => c.work .configure voltlessSupply) s =
      (.error fault, (Op.note (.log (.deviceVisited .configure "psu")) s).2) := hwork
  have hvisit : (askingEarly.visitOf .configure 0 p (chassis, voltlessSupply)).fault = some fault :=
    congrArg VisitOutcome.fault (Context.visit_of_work_fault hhere hvisited)
  let f := faultOf (chassis, voltlessSupply) fault (askingEarly.visitOf .configure 0 p (chassis, voltlessSupply))
  have hfails : askingEarly.FailsAt .configure [(chassis, earlyAsker)] (chassis, voltlessSupply) f :=
    ⟨⟨[], rfl⟩, hvisit, rfl⟩
  have hmem : f ∈ (askingEarly.visitAll .configure).report.faults := by
    have hfaults := visitPlace_faults askingEarly .configure p (chassis, voltlessSupply)
    exact hfaults ▸ List.mem_append_right _ (Option.mem_toList.mpr (congrArg (Option.map _) hvisit))
  obtain ⟨later, hlater⟩ := hfails.activity
  let x : Capture := ⟨"psu", 0x79, "psu_register_0x79", [0, 0, 0]⟩
  have hearlier : x ∈ Activity.captures p.activity := hcaptures ▸ List.mem_cons_self
  have hbefore : x ∈ Activity.captures (.log (.runStarted .configure) :: p.activity ++
      (askingEarly.visitOf .configure 0 p (chassis, voltlessSupply)).state.activity) := by
    rw [Activity.captures_append]
    exact List.mem_append_left _ hearlier
  have hattached := h askingEarly .configure _ rfl rfl f hmem _ later hlater x hbefore rfl
  rw [hfails.missing hearlier] at hattached
  cases hattached

end Controller
end PowerRails
