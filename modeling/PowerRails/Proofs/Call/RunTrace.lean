import PowerRails.Proofs.Call.Trace

/-! # The trace of a run

A visit makes its calls in order too: it asks whether its device is there, and if so, the procedures of the device and
those of its rails follow, one rail after another until a fault stops them. `Controller.trace` puts the calls of all
visits together, with all calls that these lead to. Each call of a run is in it as often as it is made, and each thing
that a run notes, log lines and notices apart, has been noted by a call in it. -/

namespace PowerRails

section
variable {σ : Type}

namespace Context

/-! ### The calls of a visit -/

/-- The call that is made for the procedures of the device itself, if it has any. -/
def ownCalls (c : Context σ) (d : Device σ) (s : State σ) : RunKind → List (Call σ)
  | .configure => d.configuration.toList.map fun k => ⟨c.withVolts k.volts, .inOrder k.actions, s⟩
  | .monitor => d.monitoring.toList.map (⟨c, .inOrder ·, s⟩)

/-- The call that is made for a rail, if it has a procedure and can be worked on. -/
def railCalls (c : Context σ) (r : Rail) (s : State σ) : RunKind → List (Call σ)
  | .configure =>
    match r.configuration, c.requireActiveRail r.id with
    | some k, .ok _ => [⟨(c.inRail r.id).withVolts k.volts, .inOrder k.actions, s⟩]
    | _, _ => []
  | .monitor =>
    match r.monitoring, c.startRail r.id s, c.requireActiveRail r.id with
    | some as, (.ok _, t), .ok _ => [⟨c.inRail r.id, .inOrder as, t⟩]
    | _, _, _ => []

/-- The calls that are made for some rails, up to the first that cannot be worked on without a fault. -/
def railsCalls (c : Context σ) (kind : RunKind) : List Rail → State σ → List (Call σ)
  | [], _ => []
  | r :: rs, s => c.railCalls r s kind ++
    match c.railWork kind r s with
    | (.ok _, t) => c.railsCalls kind rs t
    | (.error _, _) => []

/-- The calls that the work on a device makes directly. -/
def workCalls (c : Context σ) (kind : RunKind) (d : Device σ) (s : State σ) : List (Call σ) :=
  c.ownCalls d s kind ++
    match c.ownWork d kind s with
    | (.ok _, t) => c.railsCalls kind d.rails t
    | (.error _, _) => []

/-- The calls that a visit makes directly, in the order in which it makes them. -/
def visitCalls (c : Context σ) (kind : RunKind) (d : Device σ) (s : State σ) : List (Call σ) :=
  ⟨c, .presence d.id, s⟩ ::
    match c.resolvePresence d.id s with
    | (.ok true, t) => c.workCalls kind d (Op.note (.log (.deviceVisited kind d.id)) t).2
    | _ => []

variable {c : Context σ} {kind : RunKind} {d : Device σ} {r : Rail} {s : State σ} {k : Call σ}

theorem mem_ownCalls : k ∈ c.ownCalls d s kind ↔ c.OwnMakes d s kind k := by
  cases kind with
  | configure =>
    constructor
    · intro h
      obtain ⟨configuration, hk, rfl⟩ := List.mem_map.mp h
      exact .configuration (Option.mem_toList.mp hk)
    · rintro ⟨hk⟩
      exact List.mem_map.mpr ⟨_, Option.mem_toList.mpr hk, rfl⟩
  | monitor =>
    constructor
    · intro h
      obtain ⟨as, has, rfl⟩ := List.mem_map.mp h
      exact .monitoring (Option.mem_toList.mp has)
    · rintro ⟨⟩
      rename_i as has
      exact List.mem_map.mpr ⟨as, Option.mem_toList.mpr has, rfl⟩

theorem mem_railCalls : k ∈ c.railCalls r s kind ↔ c.RailMakes r s kind k := by
  constructor
  · intro h
    cases kind with
    | configure =>
      simp only [railCalls] at h
      split at h
      · rename_i hk hrail
        obtain rfl := List.mem_singleton.mp h
        exact .configuration hk hrail
      · cases h
    | monitor =>
      simp only [railCalls] at h
      split at h
      · rename_i has hstart hrail
        obtain rfl := List.mem_singleton.mp h
        exact .monitoring has hstart hrail
      · cases h
  · intro h
    cases h with
    | configuration hk hrail => simp [railCalls, hk, hrail]
    | monitoring has hstart hrail => simp [railCalls, has, hstart, hrail]

theorem mem_railsCalls {rs : List Rail} : k ∈ c.railsCalls kind rs s ↔ c.RailsMake kind rs s k := by
  induction rs generalizing s with
  | nil => exact ⟨nofun, nofun⟩
  | cons r rs ih =>
    rw [railsCalls, List.mem_append, mem_railCalls]
    constructor
    · rintro (h | h)
      · exact .here h
      · split at h
        · rename_i hr
          exact .later hr (ih.mp h)
        · cases h
    · intro h
      cases h with
      | here h => exact .inl h
      | later hr h =>
        rw [hr]
        exact .inr (ih.mpr h)

theorem mem_visitCalls : k ∈ c.visitCalls kind d s ↔ c.VisitMakes kind d s k := by
  rw [visitCalls, List.mem_cons]
  constructor
  · rintro (rfl | h)
    · exact .presence
    · split at h
      · rename_i hp
        rcases List.mem_append.mp h with h | h
        · exact .own hp (mem_ownCalls.mp h)
        · split at h
          · rename_i hown
            exact .rails hp hown (mem_railsCalls.mp h)
          · cases h
      · cases h
  · intro h
    cases h with
    | presence => exact .inl rfl
    | own hp h =>
      rw [hp]
      exact .inr (List.mem_append_left _ (mem_ownCalls.mpr h))
    | rails hp hown h =>
      rw [hp]
      refine .inr (List.mem_append_right _ ?_)
      rw [hown]
      exact mem_railsCalls.mpr h

/-! ### What a visit notes -/

section
variable {β : Type} {f : Activity → Option β}

theorem ownWork_activity (hlog : ∀ entry, f (.log entry) = none) :
    (c.ownWork d kind s).2.activity.filterMap f =
      s.activity.filterMap f ++ Call.noted f (c.ownCalls d s kind) := by
  cases kind with
  | configure =>
    unfold ownWork ownCalls
    cases d.configuration with
    | none => exact (List.append_nil _).symm
    | some k =>
      dsimp only
      rw [Op.state_bind_pure]
      exact Call.filterMap_activity hlog ⟨c.withVolts k.volts, .inOrder k.actions, s⟩
  | monitor =>
    unfold ownWork ownCalls
    cases d.monitoring with
    | none => exact (List.append_nil _).symm
    | some as =>
      dsimp only
      rw [Op.state_bind_pure]
      exact Call.filterMap_activity hlog ⟨c, .inOrder as, s⟩

theorem onRail_state {rail : String} (body : Context σ → Op σ Bool) :
    (c.onRail rail body s).2 =
      match c.requireActiveRail rail with
      | .ok _ => (body (c.inRail rail) s).2
      | .error _ => s := by
  unfold onRail
  rw [Op.framed_apply]
  cases h : c.requireActiveRail rail with
  | error fault => rfl
  | ok u => exact Op.state_bind_pure _ _ s

theorem quiet_startRail (hnotice : ∀ recipient notice, f (.notice recipient notice) = none) (rail : String) :
    (c.startRail rail).Quiet f := by
  unfold startRail
  split
  · exact .bind (.ofExcept _) fun _ => .bind (.ofExcept _) fun _ => .tellService _ fun recipient => hnotice recipient _
  · exact .pure ()

theorem railWork_activity (hlog : ∀ entry, f (.log entry) = none)
    (hnotice : ∀ recipient notice, f (.notice recipient notice) = none) :
    (c.railWork kind r s).2.activity.filterMap f =
      s.activity.filterMap f ++ Call.noted f (c.railCalls r s kind) := by
  cases kind with
  | configure =>
    show (c.configureRail r s).2.activity.filterMap f = _
    unfold railCalls
    cases hk : r.configuration with
    | none =>
      rw [configureRail, hk]
      exact (List.append_nil _).symm
    | some k =>
      rw [configureRail_of_some hk, onRail_state]
      cases c.requireActiveRail r.id with
      | error fault => exact (List.append_nil _).symm
      | ok u => exact Call.filterMap_activity hlog ⟨(c.inRail r.id).withVolts k.volts, .inOrder k.actions, s⟩
  | monitor =>
    show (c.monitorRail r s).2.activity.filterMap f = _
    unfold railCalls
    cases has : r.monitoring with
    | none =>
      rw [monitorRail, has]
      exact (List.append_nil _).symm
    | some as =>
      -- The service is told of the rail before the call and after it, by notices alone.
      have hquiet := quiet_startRail (c := c) hnotice r.id s
      rcases hstart : c.startRail r.id s with ⟨fault | u, t⟩ <;> rw [hstart] at hquiet
      · have hrail : c.monitorRail r s = (.error (fault.within (.rail r.id)), t) := by
          rw [monitorRail, has]
          exact Op.bind_of_error (Op.framed_of_error hstart)
        rw [hrail]
        exact hquiet.trans (List.append_nil _).symm
      · rcases hrail : c.onRail r.id (·.inOrder as) t with ⟨outcome, v⟩
        have hended : ∀ failed, (c.endRail failed v).2.activity.filterMap f = v.activity.filterMap f := fun failed =>
          Op.Quiet.tellService _ (fun recipient => hnotice recipient _) v
        have hstate : v = (c.onRail r.id (·.inOrder as) t).2 := (congrArg Prod.snd hrail).symm
        rw [monitorRail_of_start has hstart _ _ hrail, hended, hstate, onRail_state]
        cases c.requireActiveRail r.id with
        | error fault => exact hquiet.trans (List.append_nil _).symm
        | ok u =>
          have hcall := Call.filterMap_activity hlog ⟨c.inRail r.id, .inOrder as, t⟩
          exact hcall.trans (congrArg (· ++ _) hquiet)

theorem railsWork_activity (hlog : ∀ entry, f (.log entry) = none)
    (hnotice : ∀ recipient notice, f (.notice recipient notice) = none) (rs : List Rail) (s : State σ) :
    (eachRail (c.railWork kind) rs s).2.activity.filterMap f =
      s.activity.filterMap f ++ Call.noted f (c.railsCalls kind rs s) := by
  induction rs generalizing s with
  | nil => exact (List.append_nil _).symm
  | cons r rs ih =>
    have hfirst : (c.railWork kind r s).2.activity.filterMap f = _ := railWork_activity hlog hnotice
    rw [eachRail, railsCalls, Call.noted_append, ← List.append_assoc]
    rcases h : c.railWork kind r s with ⟨fault | u, t⟩ <;> rw [h] at hfirst
    · rw [Op.bind_of_error h, ← hfirst]
      exact (List.append_nil _).symm
    · rw [Op.bind_of_ok h, ← hfirst]
      exact ih t

theorem work_activity (hlog : ∀ entry, f (.log entry) = none)
    (hnotice : ∀ recipient notice, f (.notice recipient notice) = none) :
    (c.work kind d s).2.activity.filterMap f =
      s.activity.filterMap f ++ Call.noted f (c.workCalls kind d s) := by
  have hown : (c.ownWork d kind s).2.activity.filterMap f = _ := ownWork_activity hlog
  rw [work_eq, Op.framed_apply, workCalls, Call.noted_append, ← List.append_assoc]
  rcases h : c.ownWork d kind s with ⟨fault | u, t⟩ <;> rw [h] at hown
  · rw [Op.bind_of_error h, ← hown]
    exact (List.append_nil _).symm
  · rw [Op.bind_of_ok h, ← hown]
    exact railsWork_activity hlog hnotice d.rails t

/-- All that a visit notes, log lines and notices apart, is noted by its calls and those that they lead to. -/
theorem visit_activity (hlog : ∀ entry, f (.log entry) = none)
    (hnotice : ∀ recipient notice, f (.notice recipient notice) = none) (row : DeviceRow) :
    (c.visit kind d row s).state.activity.filterMap f =
      s.activity.filterMap f ++ Call.noted f (c.visitCalls kind d s) := by
  have hasked := Call.filterMap_activity hlog ⟨c, .presence d.id, s⟩
  have hnoted : Call.noted f (c.visitCalls kind d s) = Call.noted f [⟨c, .presence d.id, s⟩] ++ Call.noted f
      (match c.resolvePresence d.id s with
        | (.ok true, t) => c.workCalls kind d (Op.note (.log (.deviceVisited kind d.id)) t).2
        | _ => []) := Call.noted_append [_] _
  change (c.resolvePresence d.id s).2.activity.filterMap f = _ at hasked
  rw [hnoted, ← List.append_assoc, ← hasked]
  rcases hp : c.resolvePresence d.id s with ⟨fault | _ | _, t⟩
  · rw [visit_of_fault hp]
    exact (List.append_nil _).symm
  · rw [visit_of_absent hp]
    exact (Op.Quiet.note (hlog _) t).trans (List.append_nil _).symm
  · rw [visit_state_of_present hp, work_activity hlog hnotice]
    exact congrArg (· ++ _) (Op.Quiet.note (hlog _) t)

end
end Context

/-! ### Runs -/

namespace Controller
variable {ctl : Controller σ} {kind : RunKind} {k : Call σ}

/-- The calls of the visit of a place, after what the visits before it left. -/
def visitTrace (ctl : Controller σ) (kind : RunKind) (p : Progress σ) (place : Chassis σ × Device σ) : List (Call σ) :=
  (ctl.visitContext ctl.cycles p.report.captures place.2.id).visitCalls kind place.2
    { hardware := p.hardware, presence := p.presence }

/-- The calls of the visits of some places, one after another. -/
def visitsTrace (ctl : Controller σ) (kind : RunKind) : Progress σ → List (Chassis σ × Device σ) → List (Call σ)
  | _, [] => []
  | p, place :: places =>
    ctl.visitTrace kind p place ++ ctl.visitsTrace kind (ctl.visitPlace kind ctl.cycles p place) places

/-- All calls of a run, in the order in which they are made. -/
def trace (ctl : Controller σ) (kind : RunKind) : List (Call σ) :=
  (ctl.visitsTrace kind (ctl.beginning kind) ctl.plant.places).flatMap Call.trace

theorem mem_visitsTrace (before : List (Chassis σ × Device σ)) {places : List (Chassis σ × Device σ)} :
    k ∈ ctl.visitsTrace kind (ctl.progress kind before) places ↔
      ∃ earlier place later, places = earlier ++ place :: later ∧
        k ∈ ctl.visitTrace kind (ctl.progress kind (before ++ earlier)) place := by
  -- A visit finds what the visits of all places before it have left.
  induction places generalizing before with
  | nil => exact ⟨nofun, fun ⟨earlier, place, later, h, _⟩ => by cases earlier <;> cases h⟩
  | cons place places ih =>
    rw [visitsTrace, List.mem_append, ← progress_concat, ih]
    constructor
    · rintro (h | ⟨earlier, place', later, rfl, h⟩)
      · exact ⟨[], place, places, rfl, by rwa [List.append_nil]⟩
      · exact ⟨place :: earlier, place', later, rfl, by rwa [List.append_cons]⟩
    · rintro ⟨earlier, place', later, hplaces, h⟩
      cases earlier with
      | nil =>
        cases hplaces
        rw [List.append_nil] at h
        exact .inl h
      | cons first earlier =>
        cases hplaces
        rw [List.append_cons] at h
        exact .inr ⟨earlier, place', later, rfl, h⟩

/-- The calls of a run are those in its trace. -/
theorem mem_trace : k ∈ ctl.trace kind ↔ ctl.Calls kind k := by
  rw [trace, List.mem_flatMap]
  constructor
  · rintro ⟨k', hk', hk⟩
    obtain ⟨before, place, after, hplaces, hvisit⟩ := (mem_visitsTrace []).mp hk'
    exact .visit hplaces (Context.mem_visitCalls.mp hvisit) (Call.mem_trace.mp hk)
  · rintro ⟨hplaces, hvisit, hleads⟩
    refine ⟨_, ?_, Call.mem_trace.mpr hleads⟩
    exact (mem_visitsTrace []).mpr ⟨_, _, _, hplaces, Context.mem_visitCalls.mpr hvisit⟩

section
variable {β : Type} {f : Activity → Option β}

theorem visits_activity (hlog : ∀ entry, f (.log entry) = none)
    (hnotice : ∀ recipient notice, f (.notice recipient notice) = none) (places : List (Chassis σ × Device σ))
    (p : Progress σ) : (places.foldl (ctl.visitPlace kind ctl.cycles) p).activity.filterMap f =
      p.activity.filterMap f ++ Call.noted f (ctl.visitsTrace kind p places) := by
  induction places generalizing p with
  | nil => exact (List.append_nil _).symm
  | cons place places ih =>
    obtain ⟨entries, hactivity⟩ := visitPlace_activity ctl kind ctl.cycles p place
    have hvisit : (ctl.visitOf kind ctl.cycles p place).state.activity.filterMap f =
        Call.noted f (ctl.visitTrace kind p place) := Context.visit_activity hlog hnotice _
    rw [List.foldl_cons, ih, hactivity, List.filterMap_append, List.filterMap_append, Call.filterMap_logs hlog,
      List.append_nil, hvisit, visitsTrace, Call.noted_append, List.append_assoc]

/-- All that a run notes, log lines and notices apart, is noted by the calls of its trace, in their order. -/
theorem filterMap_activity (hlog : ∀ entry, f (.log entry) = none)
    (hnotice : ∀ recipient notice, f (.notice recipient notice) = none) (ctl : Controller σ) (kind : RunKind) :
    (ctl.run kind).2.filterMap f = (ctl.trace kind).flatMap fun k => k.notes.filterMap f := by
  rw [filterMap_run hlog (fun _ _ => hnotice _ _) (fun _ _ _ _ => hnotice _ _)]
  exact visits_activity hlog hnotice ctl.plant.places (ctl.beginning kind)

end
end Controller
end
end PowerRails
