import PowerRails.Proofs.Isolation
import PowerRails.Proofs.SensorsService

/-! # Observers

Those who registered with a controller are told of findings, of presence, and of sensor values, and that is all there is
to it: two controllers that differ only in who is told do and report the same, apart from the notices. To tell a sensors
service where a rail is, two things are looked up that nobody looks up without a service. In a valid plant they are
found, since a rail is announced in the context of the visit, in which the visited device is active. -/

namespace PowerRails

/-- What happens besides that somebody is told. -/
def Activity.untold (as : List Activity) : List Activity := as.filter fun a => !(a matches .notice ..)

theorem Activity.untold_append (as bs : List Activity) :
    Activity.untold (as ++ bs) = Activity.untold as ++ Activity.untold bs := List.filter_append ..

theorem Activity.untold_notices {α : Type} (f : α → String) (g : α → Notice) (as : List α) :
    Activity.untold (as.map fun a => .notice (f a) (g a)) = [] :=
  List.filter_eq_nil_iff.mpr fun x hx => by
    obtain ⟨a, -, rfl⟩ := List.mem_map.mp hx
    simp

section
variable {σ : Type}

/-! ### Visits -/

/-- Two states that differ only in who has been told. -/
def State.SameButNotices (s t : State σ) : Prop :=
  ∃ activity, t = { s with activity } ∧ Activity.untold activity = Activity.untold s.activity

/-- Activities that are the same but for notices stay so if the same is added but for notices. -/
theorem Activity.untold_append_congr {as bs cs ds : List Activity} (h : Activity.untold as = Activity.untold bs)
    (h' : Activity.untold cs = Activity.untold ds) : Activity.untold (as ++ cs) = Activity.untold (bs ++ ds) := by
  rw [untold_append, untold_append, h, h']

/-- Two visits of which different services are told. -/
def observed (σ : Type) : Likeness σ σ where
  may _ := True
  asks c d := ∃ service, d = { c with sensorsService := service }
  contexts c d := ∃ service, d = { c with sensorsService := service }
  hardware := Eq
  states := State.SameButNotices

theorem observed_note (entry : Activity) : (observed σ).Same (Op.note entry) (Op.note entry) := by
  rintro s _ ⟨activity, rfl, hsame⟩
  exact ⟨rfl, _, rfl, Activity.untold_append_congr hsame rfl⟩

theorem Context.untold_told (c : Context σ) (notice : Notice) : Activity.untold (c.told notice) = [] := by
  unfold told
  cases c.sensorsService <;> rfl

theorem observed_tellService (c d : Context σ) (notice : Notice) :
    (observed σ).Same (c.tellService notice) (d.tellService notice) := by
  rintro s _ ⟨activity, rfl, hsame⟩
  rw [Context.tellService_apply, Context.tellService_apply]
  exact ⟨rfl, _, rfl, Activity.untold_append_congr hsame ((d.untold_told notice).trans (c.untold_told notice).symm)⟩

theorem observed_entryLaw (σ : Type) : (observed σ).EntryLaw := by
  refine .of_same ?same ?inRule ?inDevice ?inRail ?addFinding
  case same =>
    rintro c _ ⟨service, rfl⟩
    exact ⟨rfl, rfl, rfl, rfl⟩
  case inRule =>
    rintro c _ id ⟨service, rfl⟩
    exact ⟨service, rfl⟩
  case inDevice =>
    rintro c _ dv r as ⟨service, rfl⟩ -
    exact ⟨service, rfl⟩
  case inRail =>
    rintro c _ r ⟨service, rfl⟩
    exact ⟨service, rfl⟩
  case addFinding =>
    rintro c _ severity code captured message ⟨service, rfl⟩ s _ ⟨activity, rfl, hsame⟩
    exact ⟨rfl, activity, rfl, hsame⟩

theorem observed_law (σ : Type) : (observed σ).Law where
  toEntryLaw := observed_entryLaw σ
  asks_of_contexts h := h
  closed _ := Plant.Closed.univ _
  hardware := by
    rintro s _ ⟨activity, rfl, -⟩
    rfl
  known := by
    rintro c _ s _ id ⟨service, rfl⟩ - ⟨activity, rfl, -⟩
    rfl
  detections := by
    rintro c _ id ⟨service, rfl⟩ -
    rfl
  detecting := by
    rintro c _ ⟨service, rfl⟩
    rfl
  detached := by
    rintro c _ id ⟨service, rfl⟩ -
    exact ⟨service, rfl⟩
  note _ _ := observed_note _
  detectionVerdict := by
    rintro c d id outcome - - s _ ⟨activity, rfl, hsame⟩
    cases outcome with
    | ok present => exact ⟨rfl, activity, rfl, hsame⟩
    | error fault => exact ⟨rfl, _, rfl, Activity.untold_append_congr hsame rfl⟩
  keepPresence := by
    rintro c _ id present ⟨service, rfl⟩ - s _ ⟨activity, rfl, hsame⟩
    exact ⟨rfl, activity, rfl, hsame⟩
  scope := by
    rintro c _ ⟨service, rfl⟩
    rfl
  held := by
    rintro c _ ⟨service, rfl⟩
    rfl
  volts := by
    rintro c _ ⟨service, rfl⟩
    rfl
  device := by
    rintro c _ ⟨service, rfl⟩
    cases h : c.device with
    | error fault => exact Or.inl ⟨fault, rfl, h⟩
    | ok a => exact Or.inr ⟨a, a, rfl, h, rfl, .refl a.bus⟩
  accessed := by
    rintro c _ s _ h _ request failure ⟨service, rfl⟩ ⟨activity, rfl, hsame⟩ rfl
    exact ⟨_, rfl, Activity.untold_append_congr hsame rfl⟩
  capture := by
    rintro c _ s _ register bytes ⟨service, rfl⟩ ⟨activity, rfl, hsame⟩
    exact ⟨_, rfl, Activity.untold_append_congr hsame rfl⟩
  recordReading := by
    -- The reading is kept by both, and its value is told by either to its own service.
    rintro c _ name kind value ⟨service, rfl⟩
    refine Likeness.Same.bind ?_ fun _ => observed_tellService _ _ _
    rintro s _ ⟨activity, rfl, hsame⟩
    exact ⟨rfl, activity, rfl, hsame⟩
  reading := by
    rintro c _ s _ r name - - - ⟨activity, rfl, -⟩
    rfl

/-- In the context of a visit nothing fails for being told where a rail is. -/
theorem Context.WorksAt.startRail_eq {c : Context σ} {place : Chassis σ × Device σ} (h : c.WorksAt place)
    (rail : String) :
    c.startRail rail = c.tellService (.railStarted rail place.2.inventoryPath place.1.inventoryPath) := by
  cases hservice : c.sensorsService with
  | none =>
    unfold Context.startRail Context.tellService
    rw [hservice]
    rfl
  | some service =>
    rw [h.startRail hservice, Context.tellService, hservice]

theorem Context.WorksAt.startRail_ok {c : Context σ} {place : Chassis σ × Device σ} (h : c.WorksAt place)
    (rail : String) (s : State σ) : (c.startRail rail s).1 = .ok () := by
  rw [h.startRail_eq, Context.tellService_apply]

/-- A visit sees no difference between services if both contexts find the place. -/
theorem observed_visitLawAt {c d : Context σ} (hcd : (observed σ).contexts c d) {place : Chassis σ × Device σ}
    (hc : c.WorksAt place) (hd : d.WorksAt place) : (observed σ).VisitLawAt c d where
  toTaskLaw := (observed_law σ).taskLaw
  contexts := hcd
  withVolts := by
    rintro c _ volts ⟨service, rfl⟩
    exact ⟨service, rfl⟩
  startRail rail := by
    rw [hc.startRail_eq, hd.startRail_eq]
    exact observed_tellService c d _
  endRail failed := observed_tellService c d (.railEnded failed)
  log _ := observed_note _

/-! ### Runs -/

/-- Two runs that have come to the same, whoever has been told meanwhile. -/
def Progress.SameButNotices (p q : Progress σ) : Prop :=
  ∃ activity, q = { p with activity } ∧ Activity.untold activity = Activity.untold p.activity

namespace Controller

/-- The same controller, where others are told. -/
def observedBy (ctl : Controller σ) (sinks publishers : List String) (service : Option String) : Controller σ :=
  { ctl with sinks, publishers, sensorsService := service }

variable {ctl : Controller σ} {kind : RunKind} {p q : Progress σ} {place : Chassis σ × Device σ}
  (sinks publishers : List String) (service : Option String)

theorem visitOf_observedBy (hvalid : ctl.plant.validate = .ok ()) (hplace : place ∈ ctl.plant.places)
    (hpq : p.SameButNotices q) (kind : RunKind) :
    let o := ctl.visitOf kind ctl.cycles p place
    let o' := (ctl.observedBy sinks publishers service).visitOf kind ctl.cycles q place
    o'.fault = o.fault ∧ o'.row = o.row ∧ o.state.SameButNotices o'.state := by
  obtain ⟨activity, rfl, -⟩ := hpq
  have hcontexts : (observed σ).contexts (ctl.visitContext ctl.cycles p.report.captures place.2.id)
      ((ctl.observedBy sinks publishers service).visitContext ctl.cycles p.report.captures place.2.id) := ⟨service, rfl⟩
  have hvalid' : (ctl.observedBy sinks publishers service).plant.validate = .ok () := hvalid
  have hlaw := observed_visitLawAt hcontexts (worksAt hvalid hplace _ _) (worksAt hvalid' hplace _ _)
  have hstart : (observed σ).states { hardware := p.hardware, presence := p.presence }
      { hardware := p.hardware, presence := p.presence } := ⟨[], rfl, rfl⟩
  obtain ⟨hfault, hrow, hstate⟩ := hlaw.visit kind (.refl place.2) trivial (fun _ _ => trivial)
    { chassis := place.1.id, device := place.2.id } hstart
  exact ⟨hfault.symm, hrow.symm, hstate⟩

theorem visitPlace_observedBy (hvalid : ctl.plant.validate = .ok ()) (hplace : place ∈ ctl.plant.places)
    (hpq : p.SameButNotices q) :
    (ctl.visitPlace kind ctl.cycles p place).SameButNotices
      ((ctl.observedBy sinks publishers service).visitPlace kind ctl.cycles q place) := by
  obtain ⟨hfault, hrow, told, hstate, htold⟩ :=
    visitOf_observedBy sinks publishers service hvalid hplace hpq kind
  obtain ⟨activity, rfl, hsame⟩ := hpq
  cases hf : (ctl.visitOf kind ctl.cycles p place).fault with
  | none =>
    rw [visitPlace_of_none hf, visitPlace_of_none (hfault.trans hf)]
    unfold afterVisit
    rw [hstate, hrow]
    exact ⟨_, rfl, Activity.untold_append_congr hsame htold⟩
  | some fault =>
    rw [visitPlace_of_some hf, visitPlace_of_some (hfault.trans hf)]
    unfold afterFault faultOf
    rw [hstate, hrow]
    exact ⟨_, rfl, Activity.untold_append_congr (Activity.untold_append_congr hsame htold) rfl⟩

theorem visitAll_observedBy (hvalid : ctl.plant.validate = .ok ()) (kind : RunKind) :
    (ctl.visitAll kind).SameButNotices ((ctl.observedBy sinks publishers service).visitAll kind) := by
  unfold visitAll
  exact List.foldl_rel ⟨[], rfl, rfl⟩ fun place hplace p q hpq =>
    visitPlace_observedBy sinks publishers service hvalid hplace hpq

theorem untold_tellFindings (ctl : Controller σ) (findings : List Finding) :
    Activity.untold (ctl.tellFindings findings) = findings.map fun f => .log (.finding f) := by
  induction findings with
  | nil => rfl
  | cons f fs ih =>
    have hhead : ctl.tellFindings (f :: fs) =
        [.log (.finding f)] ++ ctl.sinks.map (.notice · (.finding f)) ++ ctl.tellFindings fs := rfl
    rw [hhead, Activity.untold_append, Activity.untold_append, Activity.untold_notices, ih]
    rfl

theorem untold_tellPresence (ctl : Controller σ) (presence : PresenceCache) (cycle : Cycle) :
    Activity.untold (ctl.tellPresence presence cycle) = [] := by
  refine List.filter_eq_nil_iff.mpr fun a ha => ?_
  obtain ⟨d, -, ha⟩ := List.mem_flatMap.mp ha
  cases hknown : presence.get? d.id cycle with
  | none =>
    rw [hknown] at ha
    cases ha
  | some present =>
    rw [hknown] at ha
    obtain ⟨publisher, -, rfl⟩ := List.mem_map.mp ha
    simp

theorem untold_run (ctl : Controller σ) (kind : RunKind) :
    Activity.untold (ctl.run kind).2 =
      .log (.runStarted kind) :: Activity.untold (ctl.visitAll kind).activity
        ++ (ctl.visitAll kind).report.findings.map (fun f => .log (.finding f))
        ++ [.log (.runComplete (ctl.visitAll kind).report.rows.length (ctl.visitAll kind).report.faults.length
              (ctl.visitAll kind).report.findings.length
              { (ctl.visitAll kind).report with finished := true }.status)] := by
  unfold run
  dsimp only
  rw [Activity.untold_append, Activity.untold_append, untold_tellPresence, List.append_nil, Activity.untold_append,
    untold_tellFindings]
  rfl

theorem run_observedBy (hvalid : ctl.plant.validate = .ok ()) (kind : RunKind) :
    ((ctl.observedBy sinks publishers service).run kind).1 = (ctl.run kind).1.observedBy sinks publishers service ∧
      Activity.untold ((ctl.observedBy sinks publishers service).run kind).2 = Activity.untold (ctl.run kind).2 := by
  obtain ⟨activity, hall, hactivity⟩ := visitAll_observedBy sinks publishers service hvalid kind
  rw [untold_run, untold_run, hall, hactivity]
  refine ⟨?_, rfl⟩
  unfold run
  dsimp only
  rw [hall]
  rfl

theorem act_observedBy (hvalid : ctl.plant.validate = .ok ()) (step : Step) :
    ((ctl.observedBy sinks publishers service).act step).1 = (ctl.act step).1.observedBy sinks publishers service ∧
      Activity.untold ((ctl.observedBy sinks publishers service).act step).2 = Activity.untold (ctl.act step).2 := by
  cases step with
  | configure => exact run_observedBy sinks publishers service hvalid .configure
  | monitor => exact run_observedBy sinks publishers service hvalid .monitor
  | clearStreaks => exact ⟨rfl, rfl⟩
  | closeDevices => exact ⟨rfl, rfl⟩

/-- Whoever is told makes no difference to a controller of a valid plant, whatever is called from outside: hardware,
presence, failure streaks and reports are the same after every call, and so is all that happens meanwhile, except for
the notices. Announcing a rail to a sensors service cannot fail, for in each visit of a run, at whatever point, the
device and its chassis are found. -/
theorem acts_observedBy (ctl : Controller σ) (hvalid : ctl.plant.validate = .ok ()) (sinks publishers : List String)
    (service : Option String) (steps : List Step) :
    ((ctl.observedBy sinks publishers service).acts steps).1 = (ctl.acts steps).1.observedBy sinks publishers service ∧
      ((ctl.observedBy sinks publishers service).acts steps).2.map Activity.untold =
        (ctl.acts steps).2.map Activity.untold ∧
      ∀ place ∈ (ctl.acts steps).1.plant.places, ∀ cycle earlier,
        let c := ((ctl.acts steps).1.observedBy sinks publishers service).visitContext cycle earlier place.2.id
        c.device = .ok place.2 ∧ c.plant.chassisOf place.2.id = .ok place.1 ∧
          ∀ rail s, (c.startRail rail s).1 = .ok () := by
  induction steps generalizing ctl with
  | nil =>
    have hvalid' : (ctl.observedBy sinks publishers service).plant.validate = .ok () := hvalid
    refine ⟨rfl, rfl, fun place hplace cycle earlier => ?_⟩
    have hworks := worksAt hvalid' hplace cycle earlier
    exact ⟨hworks.device, hworks.chassis, hworks.startRail_ok⟩
  | cons step steps ih =>
    have hplant : (ctl.act step).1.plant = ctl.plant := by cases step <;> rfl
    obtain ⟨hafter, hactivity⟩ := act_observedBy sinks publishers service hvalid step
    obtain ⟨hlast, hrest, hrails⟩ := ih (ctl.act step).1 (hplant ▸ hvalid)
    refine ⟨?_, ?_, hrails⟩
    · rw [acts, acts, hafter]
      exact hlast
    · rw [acts, acts, List.map_cons, List.map_cons, hactivity, hafter, hrest]

end Controller
end

/-! ### A sensor of which nobody is told -/

/-- A supply with a sensor does the same if no sensors service is told, and others are told instead. -/
theorem metered_observed :
    let steps : List Step := [.configure, .monitor, .clearStreaks, .monitor, .closeDevices]
    let unheard := metered.observedBy ["journal"] ["panel"] none
    metered.plant.validate = .ok () ∧
      (unheard.acts steps).1 = (metered.acts steps).1.observedBy ["journal"] ["panel"] none ∧
      (unheard.acts steps).2.map Activity.untold = (metered.acts steps).2.map Activity.untold := by
  intro steps unheard
  have hvalid : metered.plant.validate = .ok () := rfl
  obtain ⟨hafter, hactivity, -⟩ := metered.acts_observedBy hvalid ["journal"] ["panel"] none steps
  exact ⟨hvalid, hafter, hactivity⟩

end PowerRails
