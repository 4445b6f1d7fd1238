import PowerRails.Proofs.Idempotence
import PowerRails.Proofs.Streaks

/-! # What a run forgets

A controller carries presence results, the last report and failure streaks from one run to the next. A run answers
questions of presence with results of its own cycle only, so results of other cycles are never seen before they
are replaced, and nothing looks at the last report. Only monitoring looks at the failure streaks. Two controllers
that differ in nothing else therefore run alike. -/

namespace PowerRails

section
variable {σ : Type}

/-! ### Presence results of other cycles -/

/-- Two states that differ only in presence results, and in none of the cycle of either. -/
def State.SameInCycle (cycle cycle' : Cycle) (s t : State σ) : Prop :=
  ∃ presence, t = { s with presence } ∧ ∀ id, s.presence.get? id cycle = presence.get? id cycle'

/-- Two runs of one plant in cycles of their own. -/
def inCycles (σ : Type) (cycle cycle' : Cycle) : Likeness σ σ where
  may _ := True
  asks c d := c.cycle = cycle ∧ d = { c with cycle := cycle' }
  contexts c d := c.cycle = cycle ∧ d = { c with cycle := cycle' }
  hardware := Eq
  states := State.SameInCycle cycle cycle'

variable {cycle cycle' : Cycle}

theorem inCycles_sameEntries {c d : Context σ} (h : (inCycles σ cycle cycle').contexts c d) :
    Likeness.SameEntries c d := by
  obtain ⟨-, rfl⟩ := h
  exact ⟨rfl, rfl, rfl, rfl⟩

theorem inCycles_entryLaw (σ : Type) (cycle cycle' : Cycle) : (inCycles σ cycle cycle').EntryLaw := by
  refine .of_same ?same ?inRule ?inDevice ?inRail ?addFinding
  case same => exact inCycles_sameEntries
  case inRule =>
    rintro c _ id ⟨hcycle, rfl⟩
    exact ⟨hcycle, rfl⟩
  case inDevice =>
    rintro c _ dv r as ⟨hcycle, rfl⟩ -
    exact ⟨hcycle, rfl⟩
  case inRail =>
    rintro c _ r ⟨hcycle, rfl⟩
    exact ⟨hcycle, rfl⟩
  case addFinding =>
    rintro c _ severity code captured message ⟨-, rfl⟩ s _ ⟨presence, rfl, hsame⟩
    exact ⟨rfl, presence, rfl, hsame⟩

theorem inCycles_law (σ : Type) (cycle cycle' : Cycle) : (inCycles σ cycle cycle').Law where
  toEntryLaw := inCycles_entryLaw σ cycle cycle'
  asks_of_contexts h := h
  closed _ := Plant.Closed.univ _
  hardware := by
    rintro s _ ⟨presence, rfl, -⟩
    rfl
  known := by
    rintro c _ s _ id ⟨rfl, rfl⟩ - ⟨presence, rfl, hsame⟩
    exact hsame id
  detections := by
    rintro c _ id ⟨-, rfl⟩ -
    rfl
  detecting := by
    rintro c _ ⟨-, rfl⟩
    rfl
  detached := by
    rintro c _ id ⟨hcycle, rfl⟩ -
    exact ⟨hcycle, rfl⟩
  note := by
    rintro c d id - - s _ ⟨presence, rfl, hsame⟩
    exact ⟨rfl, presence, rfl, hsame⟩
  detectionVerdict := by
    rintro c d id outcome - - s _ ⟨presence, rfl, hsame⟩
    cases outcome with
    | ok present => exact ⟨rfl, presence, rfl, hsame⟩
    | error fault => exact ⟨rfl, presence, rfl, hsame⟩
  keepPresence := by
    rintro c _ id present ⟨rfl, rfl⟩ - s _ ⟨presence, rfl, hsame⟩
    refine ⟨rfl, presence.insert id present cycle', rfl, fun other => ?_⟩
    simp only [Context.keepPresence_apply, PresenceCache.get?_insert, hsame other, if_true]
  scope := by
    rintro c _ ⟨-, rfl⟩
    rfl
  held := by
    rintro c _ ⟨-, rfl⟩
    rfl
  volts := by
    rintro c _ ⟨-, rfl⟩
    rfl
  device := by
    rintro c _ ⟨-, rfl⟩
    cases h : c.device with
    | error fault => exact Or.inl ⟨fault, rfl, h⟩
    | ok a => exact Or.inr ⟨a, a, rfl, h, rfl, .refl a.bus⟩
  accessed := by
    -- The account of an access tells what is known of its device in the cycle.
    rintro c _ s _ h _ request failure ⟨rfl, rfl⟩ ⟨presence, rfl, hsame⟩ rfl
    exact ⟨presence, by simp only [Context.accessed, hsame], hsame⟩
  capture := by
    rintro c _ s _ register bytes ⟨-, rfl⟩ ⟨presence, rfl, hsame⟩
    exact ⟨presence, rfl, hsame⟩
  recordReading := by
    rintro c _ name kind value ⟨-, rfl⟩ s _ ⟨presence, rfl, hsame⟩
    rw [Context.recordReading_apply, Context.recordReading_apply]
    exact ⟨rfl, presence, rfl, hsame⟩
  reading := by
    rintro c _ s _ r name - - - ⟨presence, rfl, -⟩
    rfl

theorem inCycles_tellService {c d : Context σ} (h : (inCycles σ cycle cycle').contexts c d) (notice : Notice) :
    (inCycles σ cycle cycle').Same (c.tellService notice) (d.tellService notice) := by
  obtain ⟨-, rfl⟩ := h
  rintro s _ ⟨presence, rfl, hsame⟩
  rw [Context.tellService_apply, Context.tellService_apply]
  exact ⟨rfl, presence, rfl, hsame⟩

theorem inCycles_visitLaw (σ : Type) (cycle cycle' : Cycle) : (inCycles σ cycle cycle').VisitLaw where
  toTaskLaw := (inCycles_law σ cycle cycle').taskLaw
  withVolts := by
    rintro c _ volts ⟨hcycle, rfl⟩
    exact ⟨hcycle, rfl⟩
  startRail {c d} rail h := by
    have hservice : d.sensorsService = c.sensorsService := by
      obtain ⟨-, rfl⟩ := h
      rfl
    exact .startRail (inCycles_sameEntries h) hservice (inCycles_tellService h) rail
  endRail failed h := inCycles_tellService h (.railEnded failed)
  log entry := by
    rintro s _ ⟨presence, rfl, hsame⟩
    exact ⟨rfl, presence, rfl, hsame⟩

/-! ### Runs -/

namespace Controller

/-- Two controllers that differ only in what they carry from one run to the next, apart from the hardware. -/
structure SameButHistory (x y : Controller σ) : Prop extends x.Alongside y where
  hardware : y.hardware = x.hardware
  sinks : y.sinks = x.sinks
  publishers : y.publishers = x.publishers

/-- Two controllers make the same of every failure that comes next. -/
def SameStreaks (x y : Controller σ) : Prop := ∀ id, y.streak id = x.streak id

end Controller

/-- Two runs of some kind, in cycles of their own, have come equally far. -/
structure Progress.SameInCycle (kind : RunKind) (cycle cycle' : Cycle) (p q : Progress σ) : Prop where
  hardware : q.hardware = p.hardware
  presence : ∀ id, p.presence.get? id cycle = q.presence.get? id cycle'
  report : q.report = { p.report with cycle := cycle' }
  activity : q.activity = p.activity
  streaks : kind = .monitor → ∀ id, (q.streaks.get? id).getD {} = (p.streaks.get? id).getD {}

namespace Controller
variable {x y ctl : Controller σ} {kind : RunKind}

theorem settle_sameStreaks {row : DeviceRow} {p q : Table String FailureStreak}
    (h : ∀ id, (q.get? id).getD {} = (p.get? id).getD {}) (id : String) :
    ((settle kind row q).get? id).getD {} = ((settle kind row p).get? id).getD {} := by
  unfold settle
  split
  · simp only [Table.get?_erase]
    split
    · rfl
    · exact h id
  · exact h id

theorem escalate_sameStreaks (hs : y.settings = x.settings) {p q : Table String FailureStreak} (device : String)
    (h : kind = .monitor → ∀ id, (q.get? id).getD {} = (p.get? id).getD {}) :
    (y.escalate kind device q).1 = (x.escalate kind device p).1 ∧ (kind = .monitor → ∀ id,
      ((y.escalate kind device q).2.get? id).getD {} = ((x.escalate kind device p).2.get? id).getD {}) := by
  cases kind with
  | configure => exact ⟨rfl, nofun⟩
  | monitor =>
    simp only [escalate, h rfl device, hs, Table.get?_insert]
    refine ⟨trivial, fun _ id => ?_⟩
    split
    · rfl
    · exact h rfl id

theorem visitPlace_sameInCycle (h : x.SameButHistory y) {p q : Progress σ}
    (hpq : p.SameInCycle kind x.cycles y.cycles q) (place : Chassis σ × Device σ) :
    (x.visitPlace kind x.cycles p place).SameInCycle kind x.cycles y.cycles (y.visitPlace kind y.cycles q place) := by
  have hcontexts : (inCycles σ x.cycles y.cycles).contexts (x.visitContext x.cycles p.report.captures place.2.id)
      (y.visitContext y.cycles q.report.captures place.2.id) := by
    refine ⟨rfl, ?_⟩
    simp only [visitContext, h.plant, h.settings, h.sensorsService, hpq.report]
  have hstates : (inCycles σ x.cycles y.cycles).states { hardware := p.hardware, presence := p.presence }
      { hardware := q.hardware, presence := q.presence } := ⟨q.presence, by rw [hpq.hardware], hpq.presence⟩
  obtain ⟨hfault, hrow, presence, hstate, hpresence⟩ := (inCycles_visitLaw σ x.cycles y.cycles).visit hcontexts kind
    (.refl place.2) trivial (fun _ _ => trivial) { chassis := place.1.id, device := place.2.id } hstates
  replace hfault : (x.visitOf kind x.cycles p place).fault = (y.visitOf kind y.cycles q place).fault := hfault
  replace hrow : (x.visitOf kind x.cycles p place).row = (y.visitOf kind y.cycles q place).row := hrow
  replace hstate : (y.visitOf kind y.cycles q place).state =
      { (x.visitOf kind x.cycles p place).state with presence } := hstate
  replace hpresence : ∀ id, (x.visitOf kind x.cycles p place).state.presence.get? id x.cycles =
      presence.get? id y.cycles := hpresence
  cases hf : (x.visitOf kind x.cycles p place).fault with
  | none =>
    rw [visitPlace_of_none hf, visitPlace_of_none (hfault ▸ hf)]
    unfold afterVisit
    rw [hstate, ← hrow]
    refine ⟨rfl, hpresence, ?_, congrArg (· ++ _) hpq.activity, fun hkind => settle_sameStreaks (hpq.streaks hkind)⟩
    simp only [hpq.report, collect]
  | some fault =>
    obtain ⟨hseverity, hstreaks⟩ := escalate_sameStreaks (x := x) (y := y) h.settings place.2.id hpq.streaks
    rw [visitPlace_of_some hf, visitPlace_of_some (hfault ▸ hf)]
    unfold afterFault faultOf
    rw [hstate, ← hrow, hseverity]
    refine ⟨rfl, hpresence, ?_, congrArg (· ++ _ ++ _) hpq.activity, hstreaks⟩
    simp only [hpq.report, collect]

theorem visitAll_sameInCycle (h : x.SameButHistory y) (hx : x.Fresh) (hy : y.Fresh)
    (hs : kind = .monitor → x.SameStreaks y) :
    (x.visitAll kind).SameInCycle kind x.cycles y.cycles (y.visitAll kind) := by
  unfold visitAll
  rw [h.plant]
  refine List.foldl_rel ?_ fun place _ p q hpq => visitPlace_sameInCycle h hpq place
  exact ⟨h.hardware, fun id => (hx id).trans (hy id).symm, rfl, rfl, hs⟩

/-- In cycles for which no presence result is there yet, two controllers that differ only in their history run alike:
their reports differ in the cycle only, all that happens is the same, and so are the hardware and the presence of
every device afterwards. Configuring takes no account of the failure streaks and leaves them alone; monitoring has to
find the same ones, and leaves the same ones. -/
theorem run_forgets_history (kind : RunKind) (h : x.SameButHistory y) (hx : x.Fresh) (hy : y.Fresh)
    (hs : kind = .monitor → x.SameStreaks y) :
    (∃ r, (x.run kind).1.lastReport = some r ∧ (y.run kind).1.lastReport = some { r with cycle := y.cycles }) ∧
      (y.run kind).2 = (x.run kind).2 ∧
      (y.run kind).1.hardware = (x.run kind).1.hardware ∧
      (∀ d ∈ x.plant.devices, (y.run kind).1.present? d.id = (x.run kind).1.present? d.id) ∧
      (kind = .configure → (x.run kind).1.streaks = x.streaks ∧ (y.run kind).1.streaks = y.streaks) ∧
      (kind = .monitor → (x.run kind).1.SameStreaks (y.run kind).1) := by
  have hall := visitAll_sameInCycle h hx hy hs
  have hpresence : y.tellPresence (y.visitAll kind).presence y.cycles =
      x.tellPresence (x.visitAll kind).presence x.cycles := by
    unfold tellPresence
    simp only [h.plant, h.publishers, hall.presence]
  have hfindings : ∀ findings, y.tellFindings findings = x.tellFindings findings := fun findings => by
    unfold tellFindings
    rw [h.sinks]
  refine ⟨⟨_, rfl, ?_⟩, ?_, hall.hardware, fun d hd => ?_, ?_, hall.streaks⟩
  · show some { (y.visitAll kind).report with finished := true } = _
    rw [hall.report]
  · unfold run
    dsimp only
    rw [hpresence, hfindings, hall.activity, hall.report]
    rfl
  · obtain ⟨present, hknown⟩ : ∃ present, (x.visitAll kind).presence.get? d.id x.cycles = some present :=
      known_of_device kind hd
    have hknown' := (hall.presence d.id).symm.trans hknown
    show (y.visitAll kind).presence.lastKnown? d.id = (x.visitAll kind).presence.lastKnown? d.id
    unfold PresenceCache.lastKnown?
    rw [PresenceCache.get?_eq_some_iff.mp hknown, PresenceCache.get?_eq_some_iff.mp hknown']
    rfl
  · rintro rfl
    exact ⟨x.streaks_configure, y.streaks_configure⟩

end Controller
end

/-! ### A controller with a past -/

/-- What two devices that ask for each other have left behind: a result of another cycle, a failure streak and a
report. -/
def followersLater : Controller RegisterFile :=
  { followers with
    cycles := 3, presence := PresenceCache.insert {} "fan" false 1, streaks := ⟨[("psu", ⟨2, true⟩)]⟩,
    lastReport := some { kind := .monitor, cycle := 1 } }

/-- The devices are configured as they are for the first time. -/
theorem followers_forget_history :
    followers.SameButHistory followersLater ∧ followers.Fresh ∧ followersLater.Fresh ∧
      ∃ r, (followers.run .configure).1.lastReport = some r ∧
        (followersLater.run .configure).1.lastReport = some { r with cycle := 3 } ∧
        (followersLater.run .configure).2 = (followers.run .configure).2 ∧
        (followersLater.run .configure).1.streaks = ⟨[("psu", ⟨2, true⟩)]⟩ := by
  have hsame : followers.SameButHistory followersLater := ⟨⟨rfl, rfl, rfl⟩, rfl, rfl, rfl⟩
  have hfresh : followers.Fresh := fun _ => rfl
  have hfresh' : followersLater.Fresh := fun id => by
    show (PresenceCache.insert {} "fan" false 1).get? id 3 = none
    rw [PresenceCache.get?_insert]
    split <;> rfl
  obtain ⟨⟨r, hr, hr'⟩, hactivity, -, -, hstreaks, -⟩ :=
    Controller.run_forgets_history .configure hsame hfresh hfresh' nofun
  exact ⟨hsame, hfresh, hfresh', r, hr, hr', hactivity, (hstreaks rfl).2⟩

end PowerRails
