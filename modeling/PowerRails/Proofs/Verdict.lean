import PowerRails.Proofs.Asked
import PowerRails.Proofs.Call.RunTrace
import PowerRails.Proofs.Cycles
import PowerRails.Proofs.Identifiers
import PowerRails.Proofs.Rows

/-! # One verdict in a cycle

In a run the presence of each device is decided once. Whoever asks first has the detection of the device carried out,
be it another device, a rule, or another detection; all who get an answer in the run get this one, and so do those
who are told at the end of the run or look up afterwards what it found. -/

namespace PowerRails

section
variable {σ : Type}

/-- What follows the gate of actions on another device. -/
def Context.afterGate (c : Context σ) (device : String) (rail : Option String) (as : Procedure) : Bool → Op σ Bool
  | true => do
    Op.ofExcept (c.requireScope device rail)
    (c.enter ⟨device, rail⟩).inOrder as
  | false => do
    c.addFinding .notice "device_not_present" none s!"skipped actions for absent device \"{device}\""
    pure false

theorem Context.perform_inDevice (c : Context σ) (device : String) (rail : Option String) (as : Procedure) :
    c.perform (.inDevice device rail as) =
      Op.framed (.action (Action.inDevice device rail as).text)
        (c.resolvePresence device >>= c.afterGate device rail as) := by
  rw [perform]
  congr 2
  funext present
  cases present <;> rfl

/-- The calls by which a call carries out the presence detection of a device. -/
def Call.detections (id : String) (k : Call σ) : List (Call σ) :=
  match k.task with
  | .presence device => if device = id then k.made else []
  | _ => []

namespace Controller

/-- All that a run says of the presence of a device is one verdict. -/
structure Decides (ctl : Controller σ) (kind : RunKind) (d : Device σ) (verdict : Bool) : Prop where
  /-- The detection of the device is carried out once, if it has one. -/
  detections : (ctl.run kind).2.count (.detection d.id) = if d.detection.isSome then 1 else 0
  /-- Of the calls of the run one carries out the actions of this detection, and no other does. -/
  carriedOut : ((ctl.trace kind).flatMap (Call.detections d.id)).map Call.task = (d.detection.map Task.inOrder).toList
  /-- A detection that is carried out gives the verdict. -/
  detected : ∀ {k k'}, ctl.Calls kind k → k.task = .presence d.id → k.Makes k' →
    Context.meaning k'.outcome.1 = verdict
  assumed : d.detection = none → verdict = true
  answers : ∀ {k present}, ctl.Calls kind k → k.task = .presence d.id → k.outcome.1 = .ok present → present = verdict
  compares : ∀ {k expected answer}, ctl.Calls kind k → k.task = .action (.comparePresence d.id expected) →
    k.outcome.1 = .ok answer → answer = (verdict == expected)
  gates : ∀ {c rail as s present t}, ctl.Calls kind ⟨c, .action (.inDevice d.id rail as), s⟩ →
    c.resolvePresence d.id s = (.ok present, t) → c.perform (.inDevice d.id rail as) s =
      Op.framed (.action (Action.inDevice d.id rail as).text) (c.afterGate d.id rail as verdict) t
  row : ∃ r, (ctl.run kind).1.lastReport = some r ∧ (∃ row ∈ r.rows, row.device = d.id) ∧
    ∀ row ∈ r.rows, row.device = d.id → row.present = some verdict
  last : (ctl.run kind).1.present? d.id = some verdict

variable {ctl : Controller σ} {kind : RunKind}

/-! ### What is known at the end -/

/-- What a visit finds out about its device is known afterwards. -/
theorem known_of_place {p : Progress σ} {place : Chassis σ × Device σ} {present : Bool} {t : State σ}
    (h : (ctl.visitContext ctl.cycles p.report.captures place.2.id).resolvePresence place.2.id
      { hardware := p.hardware, presence := p.presence } = (.ok present, t)) :
    (ctl.visitPlace kind ctl.cycles p place).presence.get? place.2.id ctl.cycles = some present := by
  have hmakes : (ctl.visitContext ctl.cycles p.report.captures place.2.id).VisitMakes kind place.2
      { hardware := p.hardware, presence := p.presence } _ := .presence
  -- Asking is the first call of the visit, and the visit only adds to what it leaves.
  have hgrows := hmakes.grows { chassis := place.1.id, device := place.2.id }
  rw [visitPlace_presence]
  refine hgrows.presence ?_
  show ((ctl.visitContext ctl.cycles p.report.captures place.2.id).resolvePresence place.2.id _).2.presence.get? _ _ = _
  rw [h]
  exact Context.get?_of_resolvePresence h

theorem rows_known : ∀ row ∈ (ctl.visitAll kind).report.rows,
    ∃ present, row.present = some present ∧ (ctl.visitAll kind).presence.get? row.device ctl.cycles = some present := by
  refine visitAll_induct (motive := fun p => ∀ row ∈ p.report.rows, ∃ present, row.present = some present ∧
    p.presence.get? row.device ctl.cycles = some present) nofun fun p place hplace ih row hrow => ?_
  rw [visitPlace_rows] at hrow
  rcases List.mem_append.mp hrow with hrow | hrow
  · obtain ⟨present, hpresent, hknown⟩ := ih row hrow
    rw [visitPlace_presence]
    exact ⟨present, hpresent, (grows_visitOf ctl kind ctl.cycles p place).presence hknown⟩
  · obtain ⟨present, hsettles⟩ := settles kind p hplace
    obtain ⟨t, hpresent⟩ := hsettles.known
    rw [List.mem_singleton.mp hrow, hsettles.row]
    exact ⟨present, rfl, known_of_place hpresent⟩

theorem row_of_device (kind : RunKind) {d : Device σ} (hd : d ∈ ctl.plant.devices) :
    ∃ row ∈ (ctl.visitAll kind).report.rows, row.device = d.id := by
  have haccounts := ctl.accounts_progress kind (List.Subset.refl ctl.plant.places)
  rw [progress_places] at haccounts
  obtain ⟨chassis, hchassis, hd⟩ := List.mem_flatMap.mp hd
  have hplace : (chassis, d) ∈ ctl.plant.places := List.mem_flatMap.mpr ⟨chassis, hchassis, List.mem_map_of_mem hd⟩
  have hids : (chassis.id, d.id) ∈ (ctl.visitAll kind).report.rows.map fun row => (row.chassis, row.device) :=
    haccounts.rows ▸ List.mem_map_of_mem (f := fun place => (place.1.id, place.2.id)) hplace
  obtain ⟨row, hrow, hids⟩ := List.mem_map.mp hids
  exact ⟨row, hrow, congrArg Prod.snd hids⟩

/-- At the end of a run the presence of every device is known. -/
theorem known_of_device (kind : RunKind) {d : Device σ} (hd : d ∈ ctl.plant.devices) :
    ∃ present, (ctl.visitAll kind).presence.get? d.id ctl.cycles = some present := by
  obtain ⟨row, hrow, hid⟩ := row_of_device kind hd
  obtain ⟨present, -, hknown⟩ := rows_known row hrow
  exact ⟨present, hid ▸ hknown⟩

/-! ### Calls -/

section
variable {k k' : Call σ} {id : String} {present verdict : Bool}

/-- An answer about a device is what is known of it at the end. -/
theorem Calls.answer (h : ctl.Calls kind k) (htask : k.task = .presence id) (hk : k.outcome.1 = .ok present) :
    (ctl.visitAll kind).presence.get? id ctl.cycles = some present := by
  obtain ⟨c, t, s⟩ := k
  cases htask
  have hcycle : c.cycle = ctl.cycles := h.inside.2
  refine h.known ?_
  rw [← hcycle]
  exact Context.get?_of_resolvePresence (Prod.ext hk rfl)

/-- A detection that is carried out for an answer gives it. -/
theorem outcome_of_detection (htask : k.task = .presence id) (h : k.Makes k') :
    k.outcome.1 = .ok (Context.meaning k'.outcome.1) := by
  cases h with
  | @detection c s id' d as hp hd has hnew =>
    cases htask
    obtain ⟨t, hkept, -⟩ := c.keepVerdict_apply id ((c.detached id).inOrder as (Op.note (.detection id) s).2).1
      ((c.detached id).inOrder as (Op.note (.detection id) s).2).2
    show (c.resolvePresence id s).1 = _
    rw [Context.resolvePresence_of_detection hp hd hnew has]
    exact congrArg Prod.fst hkept
  | _ => cases htask

/-- A comparison that comes to an answer has asked for the presence that it compares. -/
theorem answer_of_comparison {expected answer : Bool} (htask : k.task = .action (.comparePresence id expected))
    (h : k.outcome.1 = .ok answer) : ∃ present, k.Makes ⟨k.context, .presence id, k.state⟩ ∧
      (k.context.resolvePresence id k.state).1 = .ok present ∧ answer = (present == expected) := by
  obtain ⟨c, t, s⟩ := k
  cases htask
  replace h : (c.perform (.comparePresence id expected) s).1 = .ok answer := h
  rw [Context.perform, Op.framed_apply, Op.bind_apply] at h
  show ∃ present, _ ∧ (c.resolvePresence id s).1 = _ ∧ _
  rcases hpresent : c.resolvePresence id s with ⟨fault | present, u⟩
  · rw [hpresent] at h
    cases h
  · rw [hpresent] at h
    cases h
    exact ⟨present, .comparePresence, rfl, rfl⟩

end

/-! ### Detections by call -/

/-- That the presence detection of a device is carried out. -/
def Activity.detection? (id : String) (x : Activity) : Option Unit := if x = .detection id then some () else none

/-- A call that notes that a detection is carried out makes the call that carries it out. -/
theorem detections_of_notes {k : Call σ} {d : Device σ} (hd : k.context.plant.device? d.id = some d) :
    (k.detections d.id).map Call.task =
      (k.notes.filterMap (Activity.detection? d.id)).flatMap fun _ => (d.detection.map Task.inOrder).toList := by
  obtain ⟨c, task, s⟩ := k
  cases task with
  | action a =>
    cases hx : c.single? a with
    | none => simp [Call.detections, Call.notes, hx]
    | some x =>
      have hquiet : x.Quiet (Activity.detection? d.id) :=
        .single (fun _ => rfl) (fun _ _ => rfl) hx fun _ _ _ _ _ _ => rfl
      rw [Call.filterMap_notes hx hquiet]
      rfl
  | presence id =>
    unfold Call.detections Call.notes
    dsimp only
    obtain hmade | ⟨d', as, -, hd', has, -, hmade⟩ := Call.made_presence c id s
    · simp [hmade]
    · rw [hmade]
      by_cases hid : id = d.id
      · subst hid
        obtain rfl := Option.some.inj (hd'.symm.trans hd)
        simp [Activity.detection?, has]
      · simp [Activity.detection?, hid]
  | _ => rfl

/-- The calls of a run carry out a detection as often as the run notes it. -/
theorem detections_trace {d : Device σ} (hd : ctl.plant.device? d.id = some d) :
    ((ctl.trace kind).flatMap (Call.detections d.id)).map Call.task =
      ((ctl.run kind).2.filterMap (Activity.detection? d.id)).flatMap fun _ =>
        (d.detection.map Task.inOrder).toList := by
  rw [filterMap_activity (fun _ => rfl) (fun _ _ => rfl), List.map_flatMap, List.flatMap_assoc]
  refine List.flatMap_congr fun k hk => detections_of_notes ?_
  rwa [(mem_trace.mp hk).inside.1]

theorem length_detections (id : String) (as : List Activity) :
    (as.filterMap (Activity.detection? id)).length = as.count (.detection id) := by
  rw [List.length_filterMap_eq_countP, List.count]
  refine List.countP_congr fun x _ => ?_
  unfold Activity.detection?
  split <;> simp_all

/-! ### What a run tells -/

theorem isPresence_tellFindings (findings : List Finding) : ∀ x ∈ ctl.tellFindings findings, x.isPresence = false :=
  fun x hx => by
    obtain ⟨f, -, hx⟩ := List.mem_flatMap.mp hx
    rcases List.mem_cons.mp hx with rfl | hx
    · rfl
    · obtain ⟨sink, -, rfl⟩ := List.mem_map.mp hx
      rfl

theorem count_tellPresence (presence : PresenceCache) (cycle : Cycle) (id : String) :
    (ctl.tellPresence presence cycle).count (.detection id) = 0 :=
  List.count_eq_zero.mpr fun hmem => by
    obtain ⟨d, -, hmem⟩ := List.mem_flatMap.mp hmem
    split at hmem
    · obtain ⟨publisher, -, heq⟩ := List.mem_map.mp hmem
      cases heq
    · cases hmem

theorem published_tellPresence {presence : PresenceCache} {cycle : Cycle} {verdict : String → Bool}
    (h : ∀ d ∈ ctl.plant.devices, presence.get? d.id cycle = some (verdict d.id)) :
    Activity.published (ctl.tellPresence presence cycle) = ctl.plant.devices.flatMap fun d =>
      ctl.publishers.map fun publisher => (publisher, .presence d.id d.inventoryPath (verdict d.id)) := by
  have told : ctl.tellPresence presence cycle = ctl.plant.devices.flatMap fun d =>
      ctl.publishers.map (.notice · (.presence d.id d.inventoryPath (verdict d.id))) :=
    List.flatMap_congr fun d hd => by rw [h d hd]
  rw [told, Activity.published, Activity.notices, List.filterMap_flatMap, List.filter_flatMap]
  refine List.flatMap_congr fun d _ => ?_
  rw [List.filterMap_map]
  show (ctl.publishers.filterMap fun publisher => some (publisher, _)).filter _ = _
  rw [List.filterMap_eq_map', List.filter_eq_self]
  intro told htold
  obtain ⟨publisher, -, rfl⟩ := List.mem_map.mp htold
  rfl

/-! ### One verdict -/

/-- A run carries out as many detections of a device as its visits do. -/
theorem count_detection_run (hfresh : ctl.Fresh) (id : String) : (ctl.run kind).2.count (.detection id) =
    ctl.plant.detected ctl.cycles (ctl.visitAll kind).presence id := by
  have hlog : ∀ entry, List.count (Activity.detection id) [.log entry] = 0 := fun _ => rfl
  obtain ⟨completion, hactivity⟩ := activity_run ctl kind
  rw [hactivity, ← List.singleton_append, List.count_append, List.count_append, List.count_append, List.count_append,
    hlog, hlog, Activity.count_detection_eq_zero (isPresence_tellFindings _), count_tellPresence,
    (hasAsked_visitAll hfresh).detections]
  omega

theorem published_run (hfresh : ctl.Fresh) {verdict : String → Bool}
    (h : ∀ d ∈ ctl.plant.devices, (ctl.visitAll kind).presence.get? d.id ctl.cycles = some (verdict d.id)) :
    Activity.published (ctl.run kind).2 = ctl.plant.devices.flatMap fun d =>
      ctl.publishers.map fun publisher => (publisher, .presence d.id d.inventoryPath (verdict d.id)) := by
  obtain ⟨completion, hactivity⟩ := activity_run ctl kind
  rw [hactivity, ← List.singleton_append, Activity.published_append, Activity.published_append,
    Activity.published_append, Activity.published_append, (hasAsked_visitAll hfresh).published,
    Activity.published_eq_nil (isPresence_tellFindings _), published_tellPresence h]
  exact List.append_nil _

/-- What is known of a device at the end of a run is the verdict on it. -/
theorem decides (hfresh : ctl.Fresh) {d : Device σ} {verdict : Bool} (hd : d ∈ ctl.plant.devices)
    (hdevice : ctl.plant.device? d.id = some d)
    (hknown : (ctl.visitAll kind).presence.get? d.id ctl.cycles = some verdict) : ctl.Decides kind d verdict := by
  have answers : ∀ {k present}, ctl.Calls kind k → k.task = .presence d.id → k.outcome.1 = .ok present →
      present = verdict := fun hk htask hpresent => Option.some.inj ((hk.answer htask hpresent).symm.trans hknown)
  have detections : (ctl.run kind).2.count (.detection d.id) = if d.detection.isSome then 1 else 0 := by
    rw [count_detection_run hfresh, Plant.detected, hdevice, hknown]
    simp
  exact
    { detections
      carriedOut := by
        -- Each note of a detection stands for one call, and there is one note.
        rw [detections_trace hdevice]
        rw [← length_detections] at detections
        cases hdetection : d.detection with
        | none => simp
        | some as =>
          rw [hdetection] at detections
          obtain ⟨u, hu⟩ := List.length_eq_one_iff.mp detections
          rw [hu]
          rfl
      detected := fun hk htask hmakes => answers hk htask (outcome_of_detection htask hmakes)
      assumed := fun hnone => (hasAsked_visitAll hfresh).assumed hdevice hnone hknown
      answers
      compares := fun {k expected answer} hk htask hanswer => by
        obtain ⟨present, hmakes, hpresent, rfl⟩ := answer_of_comparison htask hanswer
        rw [answers (hk.makes hmakes) rfl hpresent]
      gates := fun {c rail as s present t} hk hpresent => by
        have hgate : Call.Makes ⟨c, .action (.inDevice d.id rail as), s⟩ ⟨c, .presence d.id, s⟩ := .gate
        have hverdict := answers (hk.makes hgate) rfl (congrArg Prod.fst hpresent)
        rw [Context.perform_inDevice, Op.framed_apply, Op.framed_apply, Op.bind_apply, hpresent, hverdict]
      row := by
        refine ⟨_, rfl, row_of_device kind hd, fun row hrow hid => ?_⟩
        obtain ⟨present, hpresent, hrowKnown⟩ := rows_known row hrow
        rw [hpresent, ← hrowKnown, hid, hknown]
      last := by
        have hentry := PresenceCache.get?_eq_some_iff.mp hknown
        show (ctl.visitAll kind).presence.lastKnown? d.id = _
        rw [PresenceCache.lastKnown?, hentry]
        rfl }

/-- In a run of a valid plant, whose cycle differs from all earlier ones, one verdict is reached about each device,
and every publisher is told of it once, in the order of the devices. -/
theorem run_reaches_verdicts (ctl : Controller σ) (kind : RunKind) (hvalid : ctl.plant.validate = .ok ())
    (hfresh : ctl.Fresh) : ∃ verdict : String → Bool,
      (∀ d ∈ ctl.plant.devices, ctl.Decides kind d (verdict d.id)) ∧
      Activity.published (ctl.run kind).2 = ctl.plant.devices.flatMap fun d =>
        ctl.publishers.map fun publisher => (publisher, .presence d.id d.inventoryPath (verdict d.id)) := by
  let verdict : String → Bool := fun id => ((ctl.visitAll kind).presence.get? id ctl.cycles).getD false
  have hknown : ∀ d ∈ ctl.plant.devices,
      (ctl.visitAll kind).presence.get? d.id ctl.cycles = some (verdict d.id) := fun d hd => by
    obtain ⟨present, hpresent⟩ := known_of_device kind hd
    simp only [verdict, hpresent, Option.getD_some]
  refine ⟨verdict, fun d hd => ?_, published_run hfresh hknown⟩
  exact decides hfresh hd (Plant.device?_of_validate hvalid hd) (hknown d hd)

end Controller
end

/-! ### Devices that ask for each other -/

/-- A device that is there if another one is. -/
def following (id other : String) : Device RegisterFile where
  id
  isRegulator := false
  inventoryPath := ""
  bus := RegisterFile.bus ⟨"i2c0", 0x20⟩
  detection := some ⟨.comparePresence other true, []⟩

/-- Two devices each of which is there if the other one is. -/
def followers : Controller RegisterFile where
  plant := ⟨[⟨"chassis", "", [following "fan" "psu", following "psu" "fan"]⟩], []⟩
  hardware := {}
  publishers := ["inventory"]

/-- Also where detections ask for each other, each device gets one verdict in every run. -/
theorem verdicts_of_followers :
    let ctl := (followers.acts [.configure, .monitor]).1
    ctl.plant.validate = .ok () ∧ ctl.Fresh ∧ ∃ verdict : String → Bool,
      (∀ d ∈ ctl.plant.devices, ctl.Decides .configure d (verdict d.id)) ∧
      Activity.published (ctl.run .configure).2 = ctl.plant.devices.flatMap fun d =>
        ctl.publishers.map fun publisher => (publisher, .presence d.id d.inventoryPath (verdict d.id)) := by
  have hdated : followers.Dated := nofun
  have hfresh := (Controller.dated_acts hdated [.configure, .monitor]).fresh
  exact ⟨rfl, hfresh, Controller.run_reaches_verdicts _ .configure rfl hfresh⟩

end PowerRails
