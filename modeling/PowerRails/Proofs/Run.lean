import PowerRails.Controller
import PowerRails.Proofs.Growth

/-! # Runs

A run is a series of visits, each in a fresh environment over the hardware and the presence results that the
ones before left. What a run preserves follows from what a visit preserves, by `Controller.visitAll_induct`. -/

namespace PowerRails

section
variable {σ : Type}

theorem growing_visitLaw (σ : Type) : (growing σ).VisitLaw where
  toTaskLaw := (growing_law σ).taskLaw
  arrive _ _ := trivial
  withVolts _ _ := ⟨trivial, fun _ h => h.of_context rfl rfl fun _ h => h⟩
  tellService _ _ := Grows.tellService _
  skipped _ := Grows.note _
  visited _ _ := Grows.note _

namespace Controller

/-- How the visit of a place ends, after what the visits before it left. -/
def visitOf (ctl : Controller σ) (kind : RunKind) (cycle : Cycle) (p : Progress σ) (place : Chassis σ × Device σ) :
    VisitOutcome σ :=
  (ctl.visitContext cycle p.report.captures place.2.id).visit kind place.2
    { chassis := place.1.id, device := place.2.id } { hardware := p.hardware, presence := p.presence }

/-- What a run has come to after a visit without a fault. -/
def afterVisit (kind : RunKind) (p : Progress σ) (outcome : VisitOutcome σ) : Progress σ where
  hardware := outcome.state.hardware
  presence := outcome.state.presence
  streaks := settle kind outcome.row p.streaks
  report := { collect p.report outcome.state with rows := p.report.rows ++ [outcome.row] }
  activity := p.activity ++ outcome.state.activity

/-- What is recorded of the fault of a visit. -/
def faultOf (place : Chassis σ × Device σ) (fault : Fault) (outcome : VisitOutcome σ) : RecordedFault :=
  .make place.1.id place.2.id fault outcome.state.captures

/-- What a run has come to after a visit that ended with a fault. -/
def afterFault (ctl : Controller σ) (kind : RunKind) (p : Progress σ) (place : Chassis σ × Device σ) (fault : Fault)
    (outcome : VisitOutcome σ) : Progress σ where
  hardware := outcome.state.hardware
  presence := outcome.state.presence
  streaks := (ctl.escalate kind place.2.id p.streaks).2
  report :=
    { collect p.report outcome.state with
      rows := p.report.rows ++ [outcome.row.toward .errored],
      findings := p.report.findings ++ outcome.state.findings
        ++ ((ctl.escalate kind place.2.id p.streaks).1.map (faultFinding · (faultOf place fault outcome))).toList,
      faults := p.report.faults ++ [faultOf place fault outcome] }
  activity := p.activity ++ outcome.state.activity
    ++ [.log (.deviceFailed place.1.id place.2.id fault outcome.state.captures)]

section
variable {ctl : Controller σ} {kind : RunKind} {cycle : Cycle} {p : Progress σ} {place : Chassis σ × Device σ}

theorem visitPlace_of_none (h : (ctl.visitOf kind cycle p place).fault = none) :
    ctl.visitPlace kind cycle p place = afterVisit kind p (ctl.visitOf kind cycle p place) := by
  obtain ⟨chassis, device⟩ := place
  unfold visitPlace
  simp only [visitOf] at h
  simp only [h]
  rfl

theorem visitPlace_of_some {fault : Fault} (h : (ctl.visitOf kind cycle p place).fault = some fault) :
    ctl.visitPlace kind cycle p place = ctl.afterFault kind p place fault (ctl.visitOf kind cycle p place) := by
  obtain ⟨chassis, device⟩ := place
  unfold visitPlace
  simp only [visitOf] at h
  simp only [h]
  rfl

end

variable (ctl : Controller σ) (kind : RunKind) (cycle : Cycle) (p : Progress σ) (place : Chassis σ × Device σ)

theorem visitPlace_presence :
    (ctl.visitPlace kind cycle p place).presence = (ctl.visitOf kind cycle p place).state.presence := by
  cases h : (ctl.visitOf kind cycle p place).fault with
  | none => rw [visitPlace_of_none h, afterVisit]
  | some fault => rw [visitPlace_of_some h, afterFault]

theorem visitPlace_hardware :
    (ctl.visitPlace kind cycle p place).hardware = (ctl.visitOf kind cycle p place).state.hardware := by
  cases h : (ctl.visitOf kind cycle p place).fault with
  | none => rw [visitPlace_of_none h, afterVisit]
  | some fault => rw [visitPlace_of_some h, afterFault]

theorem visitPlace_captures : (ctl.visitPlace kind cycle p place).report.captures =
    p.report.captures.extend (ctl.visitOf kind cycle p place).state.captures := by
  cases h : (ctl.visitOf kind cycle p place).fault with
  | none => rw [visitPlace_of_none h, afterVisit, collect]
  | some fault => rw [visitPlace_of_some h, afterFault, collect]

theorem visitPlace_readings : (ctl.visitPlace kind cycle p place).report.readings =
    p.report.readings ++ (ctl.visitOf kind cycle p place).state.readings := by
  cases h : (ctl.visitOf kind cycle p place).fault with
  | none => rw [visitPlace_of_none h, afterVisit, collect]
  | some fault => rw [visitPlace_of_some h, afterFault, collect]

/-- The activity of a visit is that of its environment, and perhaps a log line about its fault. -/
theorem visitPlace_activity :
    ∃ entries : List LogEntry, (ctl.visitPlace kind cycle p place).activity =
      p.activity ++ (ctl.visitOf kind cycle p place).state.activity ++ entries.map Activity.log := by
  cases h : (ctl.visitOf kind cycle p place).fault with
  | none => exact ⟨[], by rw [visitPlace_of_none h]; exact (List.append_nil _).symm⟩
  | some fault => exact ⟨[_], by rw [visitPlace_of_some h]; rfl⟩

theorem visitOf_moves {g : Regime σ} (h : g.VisitLaw)
    (ha : g.asks (ctl.visitContext cycle p.report.captures place.2.id)) (hp : g.may (.presence place.2.id))
    (hd : ∀ as ∈ place.2.procedures, g.may (.inOrder as)) :
    g.moves (ctl.visitContext cycle p.report.captures place.2.id) { hardware := p.hardware, presence := p.presence }
      (ctl.visitOf kind cycle p place).state :=
  h.visit _ kind rfl ha hp hd _ _

/-- What the visits have come to before the first of them. -/
def beginning (ctl : Controller σ) (kind : RunKind) : Progress σ :=
  { hardware := ctl.hardware, presence := ctl.presence, streaks := ctl.streaks,
    report := { kind, cycle := ctl.cycles } }

/-- What a run has come to after the visits of some places. -/
def progress (places : List (Chassis σ × Device σ)) : Progress σ :=
  places.foldl (ctl.visitPlace kind ctl.cycles) (ctl.beginning kind)

theorem progress_places : ctl.progress kind ctl.plant.places = ctl.visitAll kind := rfl

theorem progress_concat (places : List (Chassis σ × Device σ)) :
    ctl.progress kind (places ++ [place]) = ctl.visitPlace kind ctl.cycles (ctl.progress kind places) place := by
  rw [progress, List.foldl_append]
  rfl

variable {ctl kind}

/-- What holds before the visits and is kept by each of them holds after all. -/
theorem visitAll_induct {motive : Progress σ → Prop} (start : motive (ctl.beginning kind))
    (step : ∀ p, ∀ place ∈ ctl.plant.places, motive p → motive (ctl.visitPlace kind ctl.cycles p place)) :
    motive (ctl.visitAll kind) := by
  have fold : ∀ (places : List (Chassis σ × Device σ)) p, places ⊆ ctl.plant.places → motive p →
      motive (places.foldl (ctl.visitPlace kind ctl.cycles) p) := by
    intro places
    induction places with
    | nil => exact fun _ _ h => h
    | cons place places ih =>
      intro p hsub hp
      exact ih _ (fun x hx => hsub (List.mem_cons_of_mem _ hx)) (step p place (hsub List.mem_cons_self) hp)
  exact fold ctl.plant.places _ (fun _ h => h) start

theorem activity_run (ctl : Controller σ) (kind : RunKind) :
    ∃ completion, (ctl.run kind).2 =
      .log (.runStarted kind) :: (ctl.visitAll kind).activity ++
        ctl.tellFindings (ctl.visitAll kind).report.findings ++
          ctl.tellPresence (ctl.visitAll kind).presence ctl.cycles ++ [.log completion] := ⟨_, rfl⟩

/-- Besides the visits a run only logs and tells. -/
theorem filterMap_run {β : Type} {f : Activity → Option β} (hlog : ∀ entry, f (.log entry) = none)
    (hfinding : ∀ recipient finding, f (.notice recipient (.finding finding)) = none)
    (hpresence : ∀ recipient device path present, f (.notice recipient (.presence device path present)) = none)
    (ctl : Controller σ) (kind : RunKind) :
    (ctl.run kind).2.filterMap f = (ctl.visitAll kind).activity.filterMap f := by
  have findings : ∀ fs, (ctl.tellFindings fs).filterMap f = [] := fun fs => by
    refine List.filterMap_eq_nil_iff.mpr fun x hx => ?_
    obtain ⟨finding, -, hx⟩ := List.mem_flatMap.mp hx
    rcases List.mem_cons.mp hx with rfl | hx
    · exact hlog _
    · obtain ⟨sink, -, rfl⟩ := List.mem_map.mp hx
      exact hfinding _ _
  have presence : ∀ cache cycle, (ctl.tellPresence cache cycle).filterMap f = [] := by
    intro cache cycle
    refine List.filterMap_eq_nil_iff.mpr fun x hx => ?_
    obtain ⟨d, -, hx⟩ := List.mem_flatMap.mp hx
    split at hx
    · obtain ⟨publisher, -, rfl⟩ := List.mem_map.mp hx
      exact hpresence _ _ _ _
    · cases hx
  unfold run
  simp only [List.filterMap_append, List.filterMap_cons, List.filterMap_nil, hlog, findings, presence, List.append_nil]

/-- Only the visits access hardware. -/
theorem accesses_run (ctl : Controller σ) (kind : RunKind) :
    Activity.accesses (ctl.run kind).2 = Activity.accesses (ctl.visitAll kind).activity :=
  filterMap_run (fun _ => rfl) (fun _ _ => rfl) (fun _ _ _ _ => rfl) ctl kind

end Controller
end
end PowerRails
