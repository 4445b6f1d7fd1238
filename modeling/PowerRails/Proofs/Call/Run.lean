import Mathlib.Data.List.Induction
import PowerRails.Proofs.Call
import PowerRails.Proofs.Run

/-! # Calls of a run

A visit finds out whether its device is there and then carries out the procedures of the device and its rails, each
after the ones before it. These calls lead to all others, and `Controller.Calls` are all the calls of a run. A
presence result that any of them has found stands at the end of the run. -/

namespace PowerRails

section
variable {σ : Type}

/-! ### Visits -/

namespace Context
variable {c : Context σ} {kind : RunKind} {d : Device σ} {s : State σ}

/-- The work on a device by procedures of its own. -/
def ownWork (c : Context σ) (d : Device σ) : RunKind → Op σ Unit
  | .configure =>
    match d.configuration with
    | none => pure ()
    | some k => do let _ ← c.applyConfiguration k
  | .monitor =>
    match d.monitoring with
    | none => pure ()
    | some as => do let _ ← c.inOrder as

/-- What a run of a kind does with a rail. -/
def railWork (c : Context σ) : RunKind → Rail → Op σ Unit
  | .configure => c.configureRail
  | .monitor => c.monitorRail

/-- The work on a device is that by its own procedures, and then that on its rails. -/
theorem work_eq (c : Context σ) (kind : RunKind) (d : Device σ) :
    c.work kind d =
      Op.framed (.device d.id) (c.ownWork d kind >>= fun _ => eachRail (c.railWork kind) d.rails) := by
  cases kind with
  | configure =>
    show c.configureDevice d = _
    unfold configureDevice ownWork
    cases d.configuration with
    | none => rfl
    | some k => simp only [bind_assoc, pure_bind]; rfl
  | monitor =>
    show c.monitorDevice d = _
    unfold monitorDevice ownWork
    cases d.monitoring with
    | none => rfl
    | some as => simp only [bind_assoc, pure_bind]; rfl

/-- The call that the work with a device makes for the device itself. -/
inductive OwnMakes (c : Context σ) (d : Device σ) (s : State σ) : RunKind → Call σ → Prop
  | configuration {k} : d.configuration = some k →
      OwnMakes c d s .configure ⟨c.withVolts k.volts, .inOrder k.actions, s⟩
  | monitoring {as} : d.monitoring = some as → OwnMakes c d s .monitor ⟨c, .inOrder as, s⟩

/-- The call that the work with a device makes for one of its rails. -/
inductive RailMakes (c : Context σ) (r : Rail) (s : State σ) : RunKind → Call σ → Prop
  | configuration {k} : r.configuration = some k → c.requireActiveRail r.id = .ok () →
      RailMakes c r s .configure ⟨(c.inRail r.id).withVolts k.volts, .inOrder k.actions, s⟩
  | monitoring {as t} : r.monitoring = some as → c.startRail r.id s = (.ok (), t) →
      c.requireActiveRail r.id = .ok () → RailMakes c r s .monitor ⟨c.inRail r.id, .inOrder as, t⟩

/-- Some rail makes a call, after the rails before it. -/
inductive RailsMake (c : Context σ) (kind : RunKind) : List Rail → State σ → Call σ → Prop
  | here {r rs s k} : c.RailMakes r s kind k → RailsMake c kind (r :: rs) s k
  | later {r rs s t k} : c.railWork kind r s = (.ok (), t) → RailsMake c kind rs t k → RailsMake c kind (r :: rs) s k

/-- The calls that a visit makes directly. -/
inductive VisitMakes (c : Context σ) (kind : RunKind) (d : Device σ) (s : State σ) : Call σ → Prop
  | presence : VisitMakes c kind d s ⟨c, .presence d.id, s⟩
  | own {t k} : c.resolvePresence d.id s = (.ok true, t) →
      c.OwnMakes d (Op.note (.log (.deviceVisited kind d.id)) t).2 kind k → VisitMakes c kind d s k
  | rails {t u k} : c.resolvePresence d.id s = (.ok true, t) →
      c.ownWork d kind (Op.note (.log (.deviceVisited kind d.id)) t).2 = (.ok (), u) →
      c.RailsMake kind d.rails u k → VisitMakes c kind d s k

theorem OwnMakes.inside {k : Call σ} (h : c.OwnMakes d s kind k) : c.Inside k.context := by
  cases h <;> exact ⟨rfl, rfl, List.Subset.refl _⟩

theorem OwnMakes.grows {k : Call σ} (h : c.OwnMakes d s kind k) : Grows c k.outcome.2 (c.ownWork d kind s).2 := by
  cases h with
  | @configuration k hk =>
    show Grows c (c.applyConfiguration k s).2 _
    unfold ownWork
    rw [hk]
    exact .rest fun _ _ _ => .refl c _
  | @monitoring as has =>
    show Grows c (c.inOrder as s).2 _
    unfold ownWork
    rw [has]
    exact .rest fun _ _ _ => .refl c _

theorem RailMakes.inside {r : Rail} {k : Call σ} (h : c.RailMakes r s kind k) : c.Inside k.context := by
  cases h <;> exact ⟨rfl, rfl, List.Subset.refl _⟩

/-- Work on a rail of the active device. -/
theorem Grows.onRail {rail : String} (body : Context σ → Op σ Bool) (hrail : c.requireActiveRail rail = .ok ()) :
    Grows c (body (c.inRail rail) s).2 (c.onRail rail body s).2 := by
  unfold Context.onRail
  rw [Op.framed_apply, hrail]
  exact .rest_of_ok rfl (.rest fun _ _ _ => .refl c _)

theorem RailMakes.grows {r : Rail} {k : Call σ} (h : c.RailMakes r s kind k) :
    Grows c k.outcome.2 (c.railWork kind r s).2 := by
  cases h with
  | @configuration k hk hrail =>
    show Grows c ((c.inRail r.id).applyConfiguration k s).2 (c.configureRail r s).2
    unfold configureRail
    rw [hk]
    exact Grows.onRail (·.applyConfiguration k) hrail
  | @monitoring as t has hstart hrail =>
    show Grows c ((c.inRail r.id).inOrder as t).2 (c.monitorRail r s).2
    unfold monitorRail
    rw [has]
    refine .rest_of_ok (Op.framed_of_ok hstart) ((Grows.onRail (·.inOrder as) hrail).trans ?_)
    refine .rest (x := Op.attempt (c.onRail r.id (·.inOrder as))) fun outcome u _ => ?_
    exact (growing_law σ).bind (.tellService _) fun _ v _ => .refl c v

theorem RailsMake.exists_rail {rs : List Rail} {k : Call σ} (h : c.RailsMake kind rs s k) :
    ∃ r ∈ rs, ∃ t, c.RailMakes r t kind k := by
  induction h with
  | here hr => exact ⟨_, List.mem_cons_self, _, hr⟩
  | later _ _ ih =>
    obtain ⟨r, hr, hmakes⟩ := ih
    exact ⟨r, List.mem_cons_of_mem _ hr, hmakes⟩

theorem RailsMake.inside {rs : List Rail} {k : Call σ} (h : c.RailsMake kind rs s k) : c.Inside k.context := by
  obtain ⟨r, -, t, hmakes⟩ := h.exists_rail
  exact hmakes.inside

theorem grows_railWork (r : Rail) (s : State σ) : Grows c s (c.railWork kind r s).2 := by
  cases kind with
  | configure => exact (growing_visitLaw σ).configureRail trivial fun _ _ => trivial
  | monitor => exact (growing_visitLaw σ).monitorRail trivial fun _ _ => trivial

theorem grows_railsWork (rs : List Rail) (s : State σ) : Grows c s (eachRail (c.railWork kind) rs s).2 :=
  (growing_visitLaw σ).eachRail trivial fun r _ t _ => grows_railWork r t

theorem RailsMake.grows {rs : List Rail} {k : Call σ} (h : c.RailsMake kind rs s k) :
    Grows c k.outcome.2 (eachRail (c.railWork kind) rs s).2 := by
  induction h with
  | here hr => exact hr.grows.trans (.rest fun _ t _ => grows_railsWork _ t)
  | later hr _ ih => exact .rest_of_ok hr ih

theorem VisitMakes.inside {k : Call σ} (h : c.VisitMakes kind d s k) : c.Inside k.context := by
  cases h with
  | presence => exact .refl c
  | own _ h => exact h.inside
  | rails _ _ h => exact h.inside

/-- A visit of a device that is there leaves what the work on the device leaves, and fails if that does. -/
theorem visit_of_present (kind : RunKind) (row : DeviceRow) {t : State σ}
    (h : c.resolvePresence d.id s = (.ok true, t)) :
    (c.visit kind d row s).state = (c.work kind d (Op.note (.log (.deviceVisited kind d.id)) t).2).2 ∧
      ((∃ fault, (c.visit kind d row s).fault = some fault) ↔
        ∃ fault, (c.work kind d (Op.note (.log (.deviceVisited kind d.id)) t).2).1 = .error fault) := by
  have hbind : (Op.note (.log (.deviceVisited kind d.id)) >>= fun _ => c.work kind d) t =
      c.work kind d (Op.note (.log (.deviceVisited kind d.id)) t).2 := rfl
  rcases hw : c.work kind d (Op.note (.log (.deviceVisited kind d.id)) t).2 with ⟨fault | _, u⟩
  · rw [visit_of_work_fault h (hbind.trans hw)]
    exact ⟨rfl, fun _ => ⟨fault, rfl⟩, fun _ => ⟨fault, rfl⟩⟩
  · rw [visit_of_work h (hbind.trans hw)]
    exact ⟨rfl, nofun, nofun⟩

theorem visit_state_of_present {row : DeviceRow} {t : State σ} (h : c.resolvePresence d.id s = (.ok true, t)) :
    (c.visit kind d row s).state = (c.work kind d (Op.note (.log (.deviceVisited kind d.id)) t).2).2 :=
  (visit_of_present kind row h).1

theorem VisitMakes.grows {k : Call σ} (h : c.VisitMakes kind d s k) (row : DeviceRow) :
    Grows c k.outcome.2 (c.visit kind d row s).state := by
  cases h with
  | presence =>
    show Grows c (c.resolvePresence d.id s).2 _
    rcases hp : c.resolvePresence d.id s with ⟨fault | _ | _, t⟩
    · rw [visit_of_fault hp]
      exact .refl c t
    · rw [visit_of_absent hp]
      exact .note _
    · rw [visit_state_of_present hp]
      exact (Grows.note _).trans ((growing_visitLaw σ).work trivial kind fun _ _ => trivial)
  | own hp h =>
    rw [visit_state_of_present hp, work_eq]
    exact h.grows.trans (.rest fun _ u _ => grows_railsWork d.rails u)
  | rails hp hown h =>
    rw [visit_state_of_present hp, work_eq]
    exact .rest_of_ok hown h.grows

end Context

/-! ### Runs -/

namespace Controller
variable {ctl : Controller σ} {kind : RunKind}

/-- The calls of a run. -/
inductive Calls (ctl : Controller σ) (kind : RunKind) : Call σ → Prop
  | visit {before place after k k'} : ctl.plant.places = before ++ place :: after →
      (ctl.visitContext ctl.cycles (ctl.progress kind before).report.captures place.2.id).VisitMakes kind place.2
        { hardware := (ctl.progress kind before).hardware, presence := (ctl.progress kind before).presence } k →
      k.Leads k' → Calls ctl kind k'

theorem Calls.makes {k k' : Call σ} (h : ctl.Calls kind k) (hk : k.Makes k') : ctl.Calls kind k' := by
  cases h with
  | visit hplaces hvisit hleads => exact .visit hplaces hvisit (hleads.tail hk)

theorem grows_visitOf (ctl : Controller σ) (kind : RunKind) (cycle : Cycle) (p : Progress σ)
    (place : Chassis σ × Device σ) : Grows (ctl.visitContext cycle p.report.captures place.2.id)
      { hardware := p.hardware, presence := p.presence } (ctl.visitOf kind cycle p place).state :=
  visitOf_moves ctl kind cycle p place (growing_visitLaw σ) trivial trivial fun _ _ => trivial

/-- A result of the cycle stays for the rest of the visits. -/
theorem known_progress {places : List (Chassis σ × Device σ)} (rest : List (Chassis σ × Device σ)) {id : String}
    {b : Bool} (h : (ctl.progress kind places).presence.get? id ctl.cycles = some b) :
    (ctl.progress kind (places ++ rest)).presence.get? id ctl.cycles = some b := by
  induction rest generalizing places with
  | nil => rwa [List.append_nil]
  | cons place rest ih =>
    rw [List.append_cons]
    refine ih ?_
    rw [progress_concat, visitPlace_presence]
    exact (grows_visitOf ctl kind ctl.cycles _ place).presence h

theorem activity_progress (places rest : List (Chassis σ × Device σ)) :
    (ctl.progress kind places).activity <+: (ctl.progress kind (places ++ rest)).activity := by
  induction rest using List.reverseRecOn with
  | nil => simp only [List.append_nil, List.prefix_rfl]
  | append_singleton rest place ih =>
    obtain ⟨entries, hactivity⟩ := visitPlace_activity ctl kind ctl.cycles (ctl.progress kind (places ++ rest)) place
    rw [← List.append_assoc, progress_concat, hactivity, List.append_assoc]
    exact ih.trans (List.prefix_append _ _)

theorem Calls.inside {k : Call σ} (h : ctl.Calls kind k) :
    k.context.plant = ctl.plant ∧ k.context.cycle = ctl.cycles := by
  cases h with
  | visit _ hvisit hleads =>
    have hinside := hvisit.inside.trans hleads.inside
    exact ⟨hinside.plant, hinside.cycle⟩

/-- What a call leaves is added to by the visit that it belongs to, and the visits after that one leave it. -/
theorem Calls.visit_grows {k : Call σ} (h : ctl.Calls kind k) : ∃ before place after,
    ctl.plant.places = before ++ place :: after ∧
      Grows (ctl.visitContext ctl.cycles (ctl.progress kind before).report.captures place.2.id) k.outcome.2
        (ctl.visitOf kind ctl.cycles (ctl.progress kind before) place).state := by
  cases h with
  | @visit before place after k' _ hplaces hvisit hleads =>
    have hafter := hvisit.grows { chassis := place.1.id, device := place.2.id }
    exact ⟨before, place, after, hplaces, (hleads.grows.outward hvisit.inside).trans hafter⟩

/-- What happens in a call happens in the run. -/
theorem Calls.noted {k : Call σ} (h : ctl.Calls kind k) {x : Activity} (hx : x ∈ k.outcome.2.activity) :
    x ∈ (ctl.visitAll kind).activity := by
  obtain ⟨before, place, after, hplaces, hgrows⟩ := h.visit_grows
  rw [← progress_places, hplaces, List.append_cons]
  refine (activity_progress _ after).subset ?_
  obtain ⟨entries, hactivity⟩ := visitPlace_activity ctl kind ctl.cycles (ctl.progress kind before) place
  rw [progress_concat, hactivity]
  exact List.mem_append_left _ (List.mem_append_right _ (hgrows.activity.subset hx))

/-- A presence result that a call leaves stands at the end of the run. -/
theorem Calls.known {k : Call σ} (h : ctl.Calls kind k) {id : String} {b : Bool}
    (hk : k.outcome.2.presence.get? id ctl.cycles = some b) :
    (ctl.visitAll kind).presence.get? id ctl.cycles = some b := by
  obtain ⟨before, place, after, hplaces, hgrows⟩ := h.visit_grows
  rw [← progress_places, hplaces, List.append_cons]
  refine known_progress after ?_
  rw [progress_concat, visitPlace_presence]
  exact hgrows.presence hk

end Controller
end
end PowerRails
