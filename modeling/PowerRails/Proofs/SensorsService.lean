import PowerRails.Proofs.Call.Work
import PowerRails.Proofs.Verdict

/-! # What a sensors service is told

A sensors service is told of every value that is read, wherever that happens, and while monitoring also when each rail
begins and when it is over. Rails are the outermost thing that it is told of, so what it is told is a series of single
values and of sessions: a rail that begins, the values that are read meanwhile, and the end of the rail. -/

namespace PowerRails

/-! ### Utterances -/

/-- The value that is told, if it is one. -/
def Notice.value? : Notice → Option (SensorKind × Int)
  | .value kind v => some (kind, v)
  | _ => none

/-- A value as it is told, which is without the place where it was read. -/
def Reading.told (r : Reading) : SensorKind × Int := (r.kind, r.value)

/-- A rail that is monitored, and the values that are read meanwhile. -/
structure RailSession where
  rail : String
  devicePath : String
  chassisPath : String
  values : List (SensorKind × Int)
  failed : Bool

/-- What a sensors service is told at a time: a single value, or all that belongs to the monitoring of a rail. -/
inductive Utterance where
  | value (value : SensorKind × Int)
  | session (session : RailSession)

namespace Utterance

/-- An utterance in single notices. -/
def notices : Utterance → List Notice
  | .value v => [.value v.1 v.2]
  | .session x =>
    .railStarted x.rail x.devicePath x.chassisPath :: x.values.map (fun v => .value v.1 v.2) ++ [.railEnded x.failed]

/-- The values that are told. -/
def values : Utterance → List (SensorKind × Int)
  | .value v => [v]
  | .session x => x.values

/-- The monitoring of a rail that is told of. -/
def session? : Utterance → Option RailSession
  | .value _ => none
  | .session x => some x

theorem value?_notices (us : List Utterance) : (us.flatMap notices).filterMap Notice.value? = us.flatMap values := by
  rw [List.filterMap_flatMap]
  refine List.flatMap_congr fun u _ => ?_
  cases u with
  | value v => rfl
  | session x =>
    have hvalues : (x.values.map fun v => Notice.value v.1 v.2).filterMap Notice.value? = x.values :=
      List.filterMap_map.trans List.filterMap_some
    rw [notices, List.filterMap_append, List.filterMap_cons_none rfl, hvalues]
    exact List.append_nil _

theorem notices_value (vs : List (SensorKind × Int)) :
    (vs.map Utterance.value).flatMap notices = vs.map fun v => .value v.1 v.2 := by
  rw [List.flatMap_map]
  exact List.flatMap_pure_eq_map _ vs

theorem values_value (vs : List (SensorKind × Int)) : (vs.map Utterance.value).flatMap values = vs := by
  rw [List.flatMap_map]
  exact (List.flatMap_pure_eq_map _ vs).trans (List.map_id vs)

theorem session?_value (vs : List (SensorKind × Int)) : (vs.map Utterance.value).filterMap session? = [] :=
  List.filterMap_eq_nil_iff.mpr fun u hu => by
    obtain ⟨v, -, rfl⟩ := List.mem_map.mp hu
    rfl

theorem session?_session (xs : List RailSession) : (xs.map Utterance.session).filterMap session? = xs := by
  rw [List.filterMap_map]
  exact List.filterMap_some

end Utterance

/-- What services are told of sensors and rails among some activity, with who is told. -/
def Activity.sensed (as : List Activity) : List (String × Notice) :=
  as.filterMap fun
    | .notice recipient (.value kind value) => some (recipient, .value kind value)
    | .notice recipient (.railStarted rail devicePath chassisPath) =>
      some (recipient, .railStarted rail devicePath chassisPath)
    | .notice recipient (.railEnded failed) => some (recipient, .railEnded failed)
    | _ => none

theorem Activity.sensed_append (as bs : List Activity) :
    Activity.sensed (as ++ bs) = Activity.sensed as ++ Activity.sensed bs := List.filterMap_append

section
variable {σ : Type}

/-- What a service has been told from one state to another, and that this is what has been read. -/
structure State.Tells (service : String) (s : State σ) (us : List Utterance) (t : State σ) : Prop where
  notices : Activity.sensed t.activity = Activity.sensed s.activity ++ (us.flatMap Utterance.notices).map (service, ·)
  values : t.readings.map Reading.told = s.readings.map Reading.told ++ us.flatMap Utterance.values

namespace State.Tells
variable {service : String} {s t u : State σ} {us vs : List Utterance}

/-- Nothing is told where nothing is read. -/
theorem of_quiet (hreadings : t.readings = s.readings) {more : List Activity}
    (hactivity : t.activity = s.activity ++ more) (hmore : Activity.sensed more = []) : s.Tells service [] t where
  notices := by rw [hactivity, Activity.sensed_append, hmore]; rfl
  values := by rw [hreadings]; exact (List.append_nil _).symm

theorem refl (service : String) (s : State σ) : s.Tells service [] s := of_quiet rfl (List.append_nil _).symm rfl

theorem trans (h : s.Tells service us t) (h' : t.Tells service vs u) : s.Tells service (us ++ vs) u where
  notices := by rw [h'.notices, h.notices, List.flatMap_append, List.map_append, List.append_assoc]
  values := by rw [h'.values, h.values, List.flatMap_append, List.append_assoc]

theorem note {x : Activity} (hx : Activity.sensed [x] = []) : s.Tells service [] (Op.note x s).2 := of_quiet rfl rfl hx

/-- Values that are told between the beginning and the end of a rail make a session. -/
theorem session {x : RailSession}
    (h : (Op.note (.notice service (.railStarted x.rail x.devicePath x.chassisPath)) s).2.Tells service
      (x.values.map .value) t) :
    s.Tells service [.session x] (Op.note (.notice service (.railEnded x.failed)) t).2 where
  notices := by
    have hnotices := h.notices
    rw [Utterance.notices_value] at hnotices
    rw [Op.note, Op.update_apply, Activity.sensed_append, hnotices, Op.note, Op.update_apply, Activity.sensed_append,
      List.flatMap_singleton, Utterance.notices, List.map_append, List.map_cons, List.append_assoc, List.append_assoc]
    rfl
  values := by
    have hvalues := h.values
    rw [Utterance.values_value] at hvalues
    rw [List.flatMap_singleton]
    exact hvalues

end State.Tells

/-! ### Tasks -/

/-- A service is told of values, and of nothing else, as they are read. -/
def reading (σ : Type) (service : String) : Regime σ where
  may _ := True
  asks c := c.sensorsService = some service
  fits c _ := c.sensorsService = some service
  moves _ s t := ∃ vs : List (SensorKind × Int), s.Tells service (vs.map .value) t

variable {service : String} {c : Context σ} {s t : State σ}

theorem reading_of_quiet (h : s.Tells service [] t) : (reading σ service).moves c s t := ⟨[], h⟩

theorem Context.told_of_service (h : c.sensorsService = some service) (notice : Notice) :
    c.told notice = [.notice service notice] := by
  rw [told, h]
  rfl

theorem reading_taskLaw (σ : Type) (service : String) : (reading σ service).TaskLaw where
  refl _ s := reading_of_quiet (.refl service s)
  trans := by
    rintro _ s t u ⟨vs, h⟩ ⟨vs', h'⟩
    exact ⟨vs ++ vs', List.map_append ▸ h.trans h'⟩
  stays hf _ := hf
  asks_of_fits hf := hf
  closed _ := Plant.Closed.univ _
  inDevice hf _ _ _ := ⟨hf, fun _ h => h⟩
  inRail hf _ := ⟨hf, fun _ h => h⟩
  inRule hf _ _ := ⟨hf, fun _ h => h⟩
  transfer register _ _ _ := by
    rw [Context.transfer_state]
    exact reading_of_quiet (.of_quiet rfl rfl rfl)
  addFinding _ _ _ _ _ := reading_of_quiet (.of_quiet rfl (List.append_nil _).symm rfl)
  capture register bytes _ := reading_of_quiet (.of_quiet rfl rfl rfl)
  recordReading {c s} name kind value hf := by
    refine ⟨[(kind, value)], ?_⟩
    rw [Context.recordReading_apply, Context.told_of_service hf]
    exact ⟨Activity.sensed_append _ _, List.map_append⟩
  assumed _ _ _ _ _ _ := reading_of_quiet (.of_quiet rfl (List.append_nil _).symm rfl)
  detected {c s id _ _} ha _ _ _ _ _ := by
    refine ⟨ha, fun outcome t ⟨vs, h⟩ => ⟨vs, ?_⟩⟩
    have hbefore : s.Tells service (vs.map .value) t := (State.Tells.note rfl).trans h
    have hafter : t.Tells service [] ((Context.detectionVerdict id outcome >>= c.keepPresence id) t).2 := by
      cases outcome with
      | ok present => exact .of_quiet rfl (List.append_nil _).symm rfl
      | error fault => exact .of_quiet rfl rfl rfl
    exact List.append_nil (vs.map Utterance.value) ▸ hbefore.trans hafter

/-! ### Configuring -/

theorem reading_configureRail (hf : (reading σ service).fits c s) (r : Rail) :
    (reading σ service).moves c s (c.configureRail r s).2 := by
  have h := reading_taskLaw σ service
  cases hk : r.configuration with
  | none =>
    rw [Context.configureRail, hk]
    exact h.refl c s
  | some k =>
    rw [Context.configureRail_of_some hk]
    exact h.onRail hf r.id fun hf' => h.carryOut ((c.inRail r.id).withVolts k.volts) (.inOrder k.actions) s hf' trivial

theorem reading_ownWork (hf : (reading σ service).fits c s) (kind : RunKind) (d : Device σ) :
    (reading σ service).moves c s (c.ownWork d kind s).2 := by
  have h := reading_taskLaw σ service
  rcases c.ownWork_cases d kind s with hnone | ⟨k, hmakes, hstate, hcall⟩
  · rw [hnone]
    exact h.refl c s
  · have hk : (reading σ service).fits k.context k.state := by cases hmakes <;> exact hf
    have hcalled := h.carryOut k.context k.task k.state hk trivial
    rw [hcall, hstate]
    rw [hstate] at hcalled
    exact h.bind_pure hcalled

/-- Configuring tells the service of values only. -/
theorem reading_configure (hf : (reading σ service).fits c s) (d : Device σ) :
    (reading σ service).moves c s (c.work .configure d s).2 := by
  have h := reading_taskLaw σ service
  have hown := reading_ownWork hf .configure d
  rw [Context.work_eq, Op.framed_apply]
  refine h.bind hown fun _ t ht => ?_
  exact h.eachRail (h.fits_after hf hown ht) fun r _ u hu => reading_configureRail hu r

/-! ### Monitoring -/

/-- A session is about a rail of a place, and its values are those that are read from one state to another. -/
structure RailSession.IsOf (x : RailSession) (place : Chassis σ × Device σ) (r : Rail) (failed : Bool)
    (s t : State σ) : Prop where
  rail : x.rail = r.id
  devicePath : x.devicePath = place.2.inventoryPath
  chassisPath : x.chassisPath = place.1.inventoryPath
  values : t.readings.map Reading.told = s.readings.map Reading.told ++ x.values
  failed : x.failed = failed

/-- What sessions come of monitoring some rails of a place one after the other: one for each that has anything to
monitor, up to the first that fails, which is the one whose session says so. -/
inductive Context.Sessions (c : Context σ) (place : Chassis σ × Device σ) :
    List Rail → State σ → List RailSession → Prop
  | done {s : State σ} : Sessions c place [] s []
  | unmonitored {r rs xs} {s : State σ} : r.monitoring = none → Sessions c place rs s xs →
      Sessions c place (r :: rs) s xs
  | passed {r rs x xs} {s t : State σ} : r.monitoring.isSome = true → c.monitorRail r s = (.ok (), t) →
      x.IsOf place r false s t → Sessions c place rs t xs → Sessions c place (r :: rs) s (x :: xs)
  | failed {r rs x fault} {s t : State σ} : r.monitoring.isSome = true → c.monitorRail r s = (.error fault, t) →
      x.IsOf place r true s t → Sessions c place (r :: rs) s [x]

/-- A context that works on the device of a place, and finds both the device and its chassis. -/
structure Context.WorksAt (c : Context σ) (place : Chassis σ × Device σ) : Prop where
  device : c.device = .ok place.2
  chassis : c.plant.chassisOf place.2.id = .ok place.1

namespace Context.WorksAt
variable {place : Chassis σ × Device σ} {r : Rail} {outcome : Except Fault Unit}

theorem startRail (h : c.WorksAt place) (hf : c.sensorsService = some service) (rail : String) :
    c.startRail rail = Op.note (.notice service (.railStarted rail place.2.inventoryPath place.1.inventoryPath)) := by
  funext s
  unfold Context.startRail Context.tellService
  rw [hf, Option.isSome_some, if_pos rfl, h.device]
  simp only [Op.bind_apply, Op.ofExcept_apply, h.chassis]

/-- Monitoring a rail is told as one session. -/
theorem session (h : c.WorksAt place) (hf : c.sensorsService = some service) (hr : r.monitoring.isSome = true)
    (hrail : c.monitorRail r s = (outcome, t)) :
    ∃ x : RailSession, x.IsOf place r (!outcome.isOk) s t ∧ s.Tells service [.session x] t := by
  obtain ⟨as, has⟩ := Option.isSome_iff_exists.mp hr
  have hrule := reading_taskLaw σ service
  have hend (failed : Bool) : c.endRail failed = Op.note (.notice service (.railEnded failed)) := by
    rw [Context.endRail, Context.tellService, hf]
  generalize hu : (Op.note (.notice service (.railStarted r.id place.2.inventoryPath place.1.inventoryPath)) s).2 = u
  have hstart : c.startRail r.id s = (.ok (), u) := by rw [h.startRail hf, ← hu]; rfl
  obtain ⟨vs, hvs⟩ : (reading σ service).moves c u (c.onRail r.id (·.inOrder as) u).2 :=
    hrule.onRail hf r.id fun hf' => hrule.carryOut _ (.inOrder as) u hf' trivial
  rcases hbody : c.onRail r.id (·.inOrder as) u with ⟨outcome', v⟩
  rw [hbody, ← hu] at hvs
  have hmonitor := Context.monitorRail_of_start has hstart _ _ hbody
  let x : RailSession := ⟨r.id, place.2.inventoryPath, place.1.inventoryPath, vs, !outcome'.isOk⟩
  have htells : s.Tells service [.session x] (Op.note (.notice service (.railEnded x.failed)) v).2 := .session hvs
  have hvalues : v.readings.map Reading.told = s.readings.map Reading.told ++ vs :=
    hvs.values.trans (by rw [Utterance.values_value]; rfl)
  rw [hrail, hend] at hmonitor
  cases outcome' <;> cases hmonitor <;> exact ⟨x, ⟨rfl, rfl, rfl, hvalues, rfl⟩, htells⟩

/-- Monitoring the rails of a device one after the other is told as one session for each, and fails if one does. -/
theorem sessions (h : c.WorksAt place) (hf : c.sensorsService = some service) (rs : List Rail) (s : State σ) :
    ∃ xs, c.Sessions place rs s xs ∧ s.Tells service (xs.map .session) (Context.eachRail c.monitorRail rs s).2 ∧
      ((∃ fault, (Context.eachRail c.monitorRail rs s).1 = .error fault) ↔ ∃ x ∈ xs, x.failed = true) := by
  induction rs generalizing s with
  | nil =>
    refine ⟨[], .done, .refl service s, ?_⟩
    simp [Context.eachRail]
  | cons r rs ih =>
    cases hr : r.monitoring with
    | none =>
      have hskip : Context.eachRail c.monitorRail (r :: rs) s = Context.eachRail c.monitorRail rs s := by
        rw [Context.eachRail, Context.monitorRail, hr]
        rfl
      obtain ⟨xs, hxs, htells, hfails⟩ := ih s
      rw [hskip]
      exact ⟨xs, .unmonitored hr hxs, htells, hfails⟩
    | some as =>
      have hsome : r.monitoring.isSome = true := by rw [hr, Option.isSome_some]
      rcases hrail : c.monitorRail r s with ⟨fault | _, t⟩ <;> obtain ⟨x, hx, htold⟩ := h.session hf hsome hrail
      · have hlast : Context.eachRail c.monitorRail (r :: rs) s = (.error fault, t) := Op.bind_of_error hrail
        have hfailed : x.failed = true := hx.failed
        rw [hlast]
        refine ⟨[x], .failed hsome hrail hx, htold, ?_⟩
        simp [hfailed]
      · have hnext : Context.eachRail c.monitorRail (r :: rs) s = Context.eachRail c.monitorRail rs t :=
          Op.bind_of_ok hrail
        have hpassed : x.failed = false := hx.failed
        obtain ⟨xs, hxs, htells, hfails⟩ := ih t
        rw [hnext]
        refine ⟨x :: xs, .passed hsome hrail hx hxs, htold.trans htells, hfails.trans ?_⟩
        simp [hpassed]

end Context.WorksAt

/-! ### Visits -/

namespace Controller
variable {ctl : Controller σ} {kind : RunKind} {p : Progress σ} {place : Chassis σ × Device σ}

theorem worksAt (hvalid : ctl.plant.validate = .ok ()) (hplace : place ∈ ctl.plant.places) (cycle : Cycle)
    (earlier : Captures) : (ctl.visitContext cycle earlier place.2.id).WorksAt place where
  device := Plant.device_eq_ok_iff.mpr (Plant.device?_of_validate hvalid (Plant.mem_devices_of_place hplace))
  chassis := Plant.chassisOf_of_validate hvalid hplace

/-- A visit begins by finding out whether the device of its place is there. -/
def Finds (ctl : Controller σ) (p : Progress σ) (place : Chassis σ × Device σ) (present : Bool) (t : State σ) : Prop :=
  (ctl.visitContext ctl.cycles p.report.captures place.2.id).resolvePresence place.2.id
    { hardware := p.hardware, presence := p.presence } = (.ok present, t)

/-- Device-level work begins when it has been found out that the device is there. -/
def worksOwn (ctl : Controller σ) (p : Progress σ) (place : Chassis σ × Device σ) (t : State σ) :
    Except Fault Unit × State σ :=
  (ctl.visitContext ctl.cycles p.report.captures place.2.id).ownWork place.2 .monitor
    (Op.note (.log (.deviceVisited .monitor place.2.id)) t).2

/-- The sessions that a service hears of during the visit of a place, and the row that the visit leaves: none while
configuring, none of a device that is absent or fails on its own account, and otherwise those of its rails, one of
which has failed exactly if the device is errored. -/
inductive Hears (ctl : Controller σ) (p : Progress σ) (place : Chassis σ × Device σ) (row : DeviceRow) :
    RunKind → List RailSession → Prop
  | configured : Hears ctl p place row .configure []
  | absent {t : State σ} : ctl.Finds p place false t → row.present = some false → Hears ctl p place row .monitor []
  | stopped {fault} {t u : State σ} : ctl.Finds p place true t → ctl.worksOwn p place t = (.error fault, u) →
      row.present = some true → row.stage = .errored → Hears ctl p place row .monitor []
  | monitored {xs} {t u : State σ} : ctl.Finds p place true t → ctl.worksOwn p place t = (.ok (), u) →
      (ctl.visitContext ctl.cycles p.report.captures place.2.id).Sessions place place.2.rails u xs →
      row.present = some true → (row.stage = .errored ↔ ∃ x ∈ xs, x.failed = true) → Hears ctl p place row .monitor xs

/-- Work on a device that is there is told by values, and while monitoring by the sessions of its rails. -/
theorem hears_work (hvalid : ctl.plant.validate = .ok ()) (hservice : ctl.sensorsService = some service)
    (hplace : place ∈ ctl.plant.places) (kind : RunKind) {row : DeviceRow} {t : State σ}
    (hfinds : ctl.Finds p place true t) (hpresent : row.present = some true)
    (hstage : row.stage = .errored ↔
      ∃ fault, ((ctl.visitContext ctl.cycles p.report.captures place.2.id).work kind place.2
        (Op.note (.log (.deviceVisited kind place.2.id)) t).2).1 = .error fault) :
    ∃ us, t.Tells service us ((ctl.visitContext ctl.cycles p.report.captures place.2.id).work kind place.2
        (Op.note (.log (.deviceVisited kind place.2.id)) t).2).2 ∧
      ctl.Hears p place row kind (us.filterMap Utterance.session?) := by
  have hnoted : t.Tells service [] (Op.note (.log (.deviceVisited kind place.2.id)) t).2 := .note rfl
  generalize hc : ctl.visitContext ctl.cycles p.report.captures place.2.id = c at hstage ⊢
  generalize hs : (Op.note (.log (.deviceVisited kind place.2.id)) t).2 = s at hnoted hstage ⊢
  have hf : c.sensorsService = some service := by rw [← hc]; exact hservice
  have hat : c.WorksAt place := hc ▸ worksAt hvalid hplace _ _
  cases kind with
  | configure =>
    obtain ⟨vs, hvs⟩ := reading_configure (s := s) hf place.2
    refine ⟨_, hnoted.trans hvs, ?_⟩
    rw [List.nil_append, Utterance.session?_value]
    exact .configured
  | monitor =>
    have hown : ctl.worksOwn p place t = c.ownWork place.2 .monitor s := by rw [worksOwn, hc, hs]
    obtain ⟨vs, hvs⟩ := reading_ownWork (s := s) hf .monitor place.2
    rw [Context.work_eq, Op.framed_apply, Op.bind_apply] at hstage ⊢
    rcases hresult : c.ownWork place.2 .monitor s with ⟨fault | _, v⟩ <;> rw [hresult] at hvs hown hstage
    · refine ⟨_, hnoted.trans hvs, ?_⟩
      rw [List.nil_append, Utterance.session?_value]
      exact .stopped hfinds hown hpresent (hstage.mpr ⟨_, rfl⟩)
    · obtain ⟨xs, hxs, htells, hfails⟩ := hat.sessions hf place.2.rails v
      refine ⟨_, hnoted.trans (hvs.trans htells), ?_⟩
      rw [List.nil_append, List.filterMap_append, Utterance.session?_value, Utterance.session?_session, List.nil_append]
      refine .monitored hfinds hown (hc ▸ hxs) hpresent (hstage.trans (Iff.trans ?_ hfails))
      show (∃ fault, (Context.eachRail c.monitorRail place.2.rails v).1.mapError _ = .error fault) ↔ _
      cases (Context.eachRail c.monitorRail place.2.rails v).1 <;> simp [Except.mapError]

/-- What a visit tells the service, which is what it has read, and the row that it leaves. -/
theorem hears_visit (hvalid : ctl.plant.validate = .ok ()) (hservice : ctl.sensorsService = some service)
    (hplace : place ∈ ctl.plant.places) (kind : RunKind) (p : Progress σ) :
    ∃ us, State.Tells service { hardware := p.hardware, presence := p.presence } us
        (ctl.visitOf kind ctl.cycles p place).state ∧
      ctl.Hears p place (ctl.rowOf kind p place) kind (us.filterMap Utterance.session?) := by
  obtain ⟨present, hsettles⟩ := settles kind p hplace
  obtain ⟨t, hfinds⟩ := hsettles.known
  have hpresent : (ctl.rowOf kind p place).present = some present := by rw [hsettles.row]
  have hmay : (reading σ service).may (.presence place.2.id) := trivial
  obtain ⟨vs, hvs⟩ := (reading_taskLaw σ service).presence
    (ctl.visitContext ctl.cycles p.report.captures place.2.id) hservice hmay
    { hardware := p.hardware, presence := p.presence }
  rw [hfinds] at hvs
  cases present with
  | false =>
    have hvisit : (ctl.visitOf kind ctl.cycles p place).state = (Op.note (.log (.deviceSkipped place.2.id)) t).2 :=
      congrArg VisitOutcome.state (Context.visit_of_absent hfinds)
    rw [hvisit]
    refine ⟨_, hvs.trans (.note rfl), ?_⟩
    rw [List.append_nil, Utterance.session?_value]
    cases kind with
    | configure => exact .configured
    | monitor => exact .absent hfinds hpresent
  | true =>
    have hstage : (ctl.rowOf kind p place).stage = .errored ↔
        ∃ fault, (ctl.visitOf kind ctl.cycles p place).fault = some fault := by
      rw [hsettles.row]
      cases (ctl.visitOf kind ctl.cycles p place).fault <;> simp
    obtain ⟨hstate, hfails⟩ :=
      Context.visit_of_present kind { chassis := place.1.id, device := place.2.id } hfinds
    obtain ⟨us, hus, hhears⟩ := hears_work hvalid hservice hplace kind hfinds hpresent (hstage.trans hfails)
    have hvisit : (ctl.visitOf kind ctl.cycles p place).state = _ := hstate
    rw [hvisit]
    refine ⟨_, hvs.trans hus, ?_⟩
    rw [List.filterMap_append, Utterance.session?_value, List.nil_append]
    exact hhears

/-! ### Runs -/

theorem sensed_run (ctl : Controller σ) (kind : RunKind) :
    Activity.sensed (ctl.run kind).2 = Activity.sensed (ctl.visitAll kind).activity :=
  filterMap_run (fun _ => rfl) (fun _ _ => rfl) (fun _ _ _ _ => rfl) ctl kind

/-- What a service has been told in the visits of some places, in one series of utterances for each. -/
structure Heard (ctl : Controller σ) (kind : RunKind) (service : String) (places : List (Chassis σ × Device σ))
    (heard : List (List Utterance)) : Prop where
  length : heard.length = places.length
  notices : Activity.sensed (ctl.progress kind places).activity =
    (heard.flatten.flatMap Utterance.notices).map (service, ·)
  values : (ctl.progress kind places).report.readings.map Reading.told = heard.flatten.flatMap Utterance.values
  visits : ∀ before place after, places = before ++ place :: after → ∃ us, heard[before.length]? = some us ∧
    ctl.Hears (ctl.progress kind before) place (ctl.rowOf kind (ctl.progress kind before) place) kind
      (us.filterMap Utterance.session?)

/-- A visit adds what it tells. -/
theorem Heard.concat {places : List (Chassis σ × Device σ)} {heard : List (List Utterance)} {us : List Utterance}
    (h : ctl.Heard kind service places heard)
    (htells : State.Tells service
      { hardware := (ctl.progress kind places).hardware, presence := (ctl.progress kind places).presence } us
      (ctl.visitOf kind ctl.cycles (ctl.progress kind places) place).state)
    (hhears : ctl.Hears (ctl.progress kind places) place (ctl.rowOf kind (ctl.progress kind places) place) kind
      (us.filterMap Utterance.session?)) :
    ctl.Heard kind service (places ++ [place]) (heard ++ [us]) where
  length := by rw [List.length_append, List.length_append, h.length, List.length_singleton, List.length_singleton]
  notices := by
    obtain ⟨entries, hactivity⟩ := visitPlace_activity ctl kind ctl.cycles (ctl.progress kind places) place
    have hentries : Activity.sensed (entries.map Activity.log) = [] := by simp [Activity.sensed]
    have hvisit := htells.notices
    rw [progress_concat, hactivity, Activity.sensed_append, Activity.sensed_append, hentries, List.append_nil,
      h.notices, hvisit, List.flatten_append, List.flatMap_append, List.map_append, List.flatten_singleton]
    rfl
  values := by
    rw [progress_concat, visitPlace_readings, List.map_append, h.values, htells.values, List.flatten_append,
      List.flatMap_append, List.flatten_singleton]
    rfl
  visits before other after hsplit := by
    rcases List.eq_nil_or_concat after with rfl | ⟨after, last, rfl⟩
    · obtain ⟨rfl, hlast⟩ := List.append_inj' hsplit rfl
      cases hlast
      exact ⟨us, by rw [← h.length, List.getElem?_concat_length], hhears⟩
    · rw [List.concat_eq_append, ← List.cons_append, ← List.append_assoc] at hsplit
      obtain ⟨vs, hvs, hother⟩ := h.visits before other after (List.append_inj' hsplit rfl).1
      obtain ⟨hlt, -⟩ := List.getElem?_eq_some_iff.mp hvs
      exact ⟨vs, by rw [List.getElem?_append_left hlt, hvs], hother⟩

theorem heard_progress (hvalid : ctl.plant.validate = .ok ()) (hservice : ctl.sensorsService = some service)
    (kind : RunKind) {places : List (Chassis σ × Device σ)} (hplaces : places ⊆ ctl.plant.places) :
    ∃ heard, ctl.Heard kind service places heard := by
  induction places using List.reverseRecOn with
  | nil => exact ⟨[], rfl, rfl, rfl, fun before place after hsplit => by simp at hsplit⟩
  | append_singleton places place ih =>
    obtain ⟨hbefore, hplace⟩ := List.append_subset.mp hplaces
    obtain ⟨heard, hheard⟩ := ih hbefore
    obtain ⟨us, htells, hhears⟩ :=
      hears_visit hvalid hservice (hplace List.mem_cons_self) kind (ctl.progress kind places)
    exact ⟨heard ++ [us], hheard.concat htells hhears⟩

/-- In a run of a valid plant, the sensors service is told of single values and of sessions, which are never within one
another and never left open; the values are those of the report, in the same order. Each place is heard of in its turn,
by the sessions that are due to it. -/
theorem run_tells_sensors (ctl : Controller σ) (kind : RunKind) (hvalid : ctl.plant.validate = .ok ())
    (hservice : ctl.sensorsService = some service) :
    ∃ (r : Report) (heard : List (List Utterance)), (ctl.run kind).1.lastReport = some r ∧
      Activity.sensed (ctl.run kind).2 = (heard.flatten.flatMap Utterance.notices).map (service, ·) ∧
      ((Activity.sensed (ctl.run kind).2).map Prod.snd).filterMap Notice.value? = r.readings.map Reading.told ∧
      heard.length = ctl.plant.places.length ∧
      ∀ before place after, ctl.plant.places = before ++ place :: after → ∃ us row,
        heard[before.length]? = some us ∧ r.rows[before.length]? = some row ∧ row.device = place.2.id ∧
        ctl.Hears (ctl.progress kind before) place row kind (us.filterMap Utterance.session?) := by
  obtain ⟨heard, hheard⟩ := heard_progress hvalid hservice kind (List.Subset.refl ctl.plant.places)
  have hnotices := hheard.notices
  have hvalues := hheard.values
  rw [progress_places] at hnotices hvalues
  rw [sensed_run, hnotices]
  refine ⟨_, heard, rfl, rfl, ?_, hheard.length, fun before place after hsplit => ?_⟩
  · rw [List.map_map]
    show ((heard.flatten.flatMap Utterance.notices).map id).filterMap _ = _
    rw [List.map_id, Utterance.value?_notices]
    exact hvalues.symm
  · obtain ⟨us, hus, hhears⟩ := hheard.visits before place after hsplit
    obtain ⟨present, hsettles⟩ := settles kind (ctl.progress kind before)
      (hsplit ▸ List.mem_append_right before List.mem_cons_self : place ∈ ctl.plant.places)
    exact ⟨us, _, hus, row_visitAll hsplit, by rw [hsettles.row], hhears⟩

end Controller
end

/-! ### A supply with a sensor -/

/-- The output voltage of a supply is read on its rail. -/
def outputSensor : SensorRead where
  register := 0x8B
  format := ⟨.word, false⟩
  kind := .vout
  name := "output"
  name_nonempty := by decide

/-- A supply with one rail that is monitored and one that is not. -/
def meteredSupply : Device RegisterFile where
  id := "psu"
  isRegulator := true
  inventoryPath := "/chassis/psu"
  bus := RegisterFile.bus ⟨"i2c0", 0x40⟩
  rails := [{ id := "12v", monitoring := some ⟨.readSensor outputSensor, []⟩ }, { id := "standby" }]

/-- The supply with a sensors service. -/
def metered : Controller RegisterFile where
  plant := ⟨[⟨"chassis", "/chassis", [meteredSupply]⟩], []⟩
  hardware := {}
  sensorsService := some "sensors"

/-- While the supply is monitored, the service hears of one session, of the rail that has anything to monitor. -/
theorem metered_tells_sensors : metered.plant.validate = .ok () ∧ metered.sensorsService = some "sensors" ∧
    ∃ us : List Utterance, Activity.sensed metered.monitor.2 = (us.flatMap Utterance.notices).map ("sensors", ·) ∧
      (us.filterMap Utterance.session?).map (fun x => (x.rail, x.devicePath, x.chassisPath)) =
        [("12v", "/chassis/psu", "/chassis")] := by
  have hvalid : metered.plant.validate = .ok () := rfl
  obtain ⟨r, heard, -, hsensed, -, hlength, hvisits⟩ := Controller.run_tells_sensors metered .monitor hvalid rfl
  obtain ⟨us, row, hus, -, -, hhears⟩ := hvisits [] _ [] rfl
  obtain ⟨us', rfl⟩ := List.length_eq_one_iff.mp hlength
  obtain rfl : us' = us := Option.some.inj hus
  rw [List.flatten_singleton] at hsensed
  refine ⟨hvalid, rfl, us', hsensed, ?_⟩
  have hhere : metered.Finds (metered.progress .monitor []) (⟨"chassis", "/chassis", [meteredSupply]⟩, meteredSupply)
      true _ := (Context.resolvePresence_of_device rfl rfl).trans rfl
  generalize us'.filterMap Utterance.session? = xs at hhears ⊢
  cases hhears with
  | absent hfinds => cases hhere.symm.trans hfinds
  | stopped _ hown => cases hown
  | monitored _ _ hsessions =>
    cases hsessions with
    | unmonitored hnone => cases hnone
    | failed _ _ hx => simp [hx.rail, hx.devicePath, hx.chassisPath, meteredSupply]
    | passed _ _ hx hrest =>
      cases hrest with
      | unmonitored _ hdone =>
        cases hdone
        simp [hx.rail, hx.devicePath, hx.chassisPath, meteredSupply]
      | passed hsome => cases hsome
      | failed hsome => cases hsome

end PowerRails
