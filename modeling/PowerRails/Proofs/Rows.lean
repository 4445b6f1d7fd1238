import Mathlib.Data.List.Induction
import PowerRails.Proofs.Identifiers
import PowerRails.Proofs.Run

/-! # Rows

A run keeps one row for each device, in the order of the visits. The first thing a visit does is to find out
whether the device is there, and this always has an answer: a device that is visited exists, and no detection of
it can be under way. From there the row comes to an end by steps that are all allowed. It is done, or it is
errored where a fault surfaced, and each fault is recorded once, for the row that it marks. -/

namespace PowerRails

section
variable {σ : Type}

/-- Asking for a device that exists has an answer, unless it is asked in the course of finding it out. -/
theorem Context.resolvePresence_answers {c : Context σ} {id : String} {d : Device σ}
    (hd : c.plant.device? id = some d) (hnew : id ∉ c.detecting) (s : State σ) :
    ∃ present t, c.resolvePresence id s = (.ok present, t) := by
  have hr := c.resolves id s
  generalize c.resolvePresence id s = x at hr ⊢
  cases hr with
  | cached => exact ⟨_, _, rfl⟩
  | unknown _ hnone => exact absurd (hd.symm.trans hnone) (by simp)
  | cyclic _ _ hdetecting => exact absurd hdetecting hnew
  | assumed => exact ⟨_, _, rfl⟩
  | @detected _ _ r => obtain ⟨fault | verdict, u⟩ := r <;> exact ⟨_, _, rfl⟩

/-! ### Steps from stage to stage -/

/-- The row after a step, or none if the step is refused. -/
def DeviceRow.advance? (row : DeviceRow) (next : Stage) : Option DeviceRow :=
  if (row.advance next).1 then some (row.advance next).2 else none

section
variable {m : Type → Type} [Monad m]

/-- A visit that moves its row on by `step`. -/
def Context.visitBy (step : DeviceRow → Stage → m DeviceRow) (ctx : Context σ) (kind : RunKind) (d : Device σ)
    (row : DeviceRow) (s : State σ) : m (VisitOutcome σ) :=
  match Op.framed (.device d.id) (ctx.resolvePresence d.id) s with
  | (.error fault, s) => pure ⟨some fault, row, s⟩
  | (.ok false, s) => do
    let row ← step { row with present := some false } .presenceResolved
    let row ← step row .done
    pure ⟨none, row, (Op.note (.log (.deviceSkipped d.id)) s).2⟩
  | (.ok true, s) => do
    let row ← step { row with present := some true } .presenceResolved
    let row ← step row kind.stage
    match (do Op.note (.log (.deviceVisited kind d.id)); ctx.work kind d : Op σ Unit) s with
    | (.error fault, s) => pure ⟨some fault, row, s⟩
    | (.ok _, s) => do
      let row ← step row .done
      pure ⟨none, row, s⟩

/-- The row of a visited device, moved on by `step`. A fault marks it. -/
def Controller.rowBy (step : DeviceRow → Stage → m DeviceRow) (ctl : Controller σ) (kind : RunKind) (p : Progress σ)
    (place : Chassis σ × Device σ) : m DeviceRow := do
  let outcome ← (ctl.visitContext ctl.cycles p.report.captures place.2.id).visitBy step kind place.2
    { chassis := place.1.id, device := place.2.id } { hardware := p.hardware, presence := p.presence }
  match outcome.fault with
  | none => pure outcome.row
  | some _ => step outcome.row .errored

end

/-- Visits move on by steps that are passed over where they are refused. -/
theorem Context.visitBy_toward (c : Context σ) (kind : RunKind) (d : Device σ) (row : DeviceRow) (s : State σ) :
    c.visitBy (m := Id) DeviceRow.toward kind d row s = c.visit kind d row s := by
  unfold visitBy visit
  rcases Op.framed (.device d.id) (c.resolvePresence d.id) s with ⟨fault | _ | _, t⟩
  · rfl
  · rfl
  · dsimp only
    rcases (Op.note (.log (.deviceVisited kind d.id)) >>= fun _ => c.work kind d) t with ⟨fault | _, u⟩ <;> rfl

/-- What becomes of a row once it is known whether the device is there: no step is refused. -/
theorem Context.visit_of_presence {c : Context σ} {d : Device σ} {s t : State σ} {present : Bool} (kind : RunKind)
    (row : DeviceRow) (hrow : row.stage = .notStarted) (h : c.resolvePresence d.id s = (.ok present, t)) :
    (present = false → (c.visit kind d row s).fault = none) ∧
      (c.visit kind d row s).row =
        { row with present := some present, stage := (c.visit kind d row s).fault.elim .done fun _ => kind.stage } ∧
      c.visitBy DeviceRow.advance? kind d row s = some (c.visit kind d row s) := by
  obtain ⟨chassis, device, known, stage⟩ := row
  obtain rfl : stage = .notStarted := hrow
  unfold visitBy
  cases present with
  | false =>
    rw [visit_of_absent h, Op.framed_of_ok h]
    exact ⟨fun _ => rfl, rfl, rfl⟩
  | true =>
    rw [Op.framed_of_ok h]
    rcases hw : (Op.note (.log (.deviceVisited kind d.id)) >>= fun _ => c.work kind d) t with ⟨fault | _, u⟩
    · rw [visit_of_work_fault h hw]
      simp only [hw]
      cases kind <;> exact ⟨nofun, rfl, rfl⟩
    · rw [visit_of_work h hw]
      simp only [hw]
      cases kind <;> exact ⟨nofun, rfl, rfl⟩

namespace Controller

/-- The row that a run keeps of a visit. -/
def rowOf (ctl : Controller σ) (kind : RunKind) (p : Progress σ) (place : Chassis σ × Device σ) : DeviceRow :=
  ctl.rowBy (m := Id) DeviceRow.toward kind p place

variable {ctl : Controller σ} {kind : RunKind} {p : Progress σ} {place : Chassis σ × Device σ}

theorem rowOf_eq (ctl : Controller σ) (kind : RunKind) (p : Progress σ) (place : Chassis σ × Device σ) :
    ctl.rowOf kind p place = (ctl.visitOf kind ctl.cycles p place).fault.elim (ctl.visitOf kind ctl.cycles p place).row
      fun _ => (ctl.visitOf kind ctl.cycles p place).row.toward .errored := by
  unfold rowOf rowBy
  rw [Context.visitBy_toward]
  show (match (ctl.visitOf kind ctl.cycles p place).fault with | none => _ | some _ => _) = _
  cases (ctl.visitOf kind ctl.cycles p place).fault <;> rfl

theorem visitPlace_rows (ctl : Controller σ) (kind : RunKind) (p : Progress σ) (place : Chassis σ × Device σ) :
    (ctl.visitPlace kind ctl.cycles p place).report.rows = p.report.rows ++ [ctl.rowOf kind p place] := by
  rw [rowOf_eq]
  cases h : (ctl.visitOf kind ctl.cycles p place).fault with
  | none =>
    rw [visitPlace_of_none h]
    rfl
  | some fault =>
    rw [visitPlace_of_some h]
    rfl

theorem visitPlace_faults (ctl : Controller σ) (kind : RunKind) (p : Progress σ) (place : Chassis σ × Device σ) :
    (ctl.visitPlace kind ctl.cycles p place).report.faults = p.report.faults ++
      ((ctl.visitOf kind ctl.cycles p place).fault.map
        (faultOf place · (ctl.visitOf kind ctl.cycles p place))).toList := by
  cases h : (ctl.visitOf kind ctl.cycles p place).fault with
  | none =>
    rw [visitPlace_of_none h]
    exact (List.append_nil _).symm
  | some fault =>
    rw [visitPlace_of_some h]
    rfl

/-- A recorded fault is that of the visit of a place, after what the visits before it left. -/
structure FailsAt (ctl : Controller σ) (kind : RunKind) (before : List (Chassis σ × Device σ))
    (place : Chassis σ × Device σ) (f : RecordedFault) : Prop where
  visited : ∃ after, ctl.plant.places = before ++ place :: after
  fault : (ctl.visitOf kind ctl.cycles (ctl.progress kind before) place).fault = some f.fault
  recorded : f = faultOf place f.fault (ctl.visitOf kind ctl.cycles (ctl.progress kind before) place)

theorem failsAt_of_mem {f : RecordedFault} (h : f ∈ (ctl.visitAll kind).report.faults) :
    ∃ before place, ctl.FailsAt kind before place f := by
  suffices hall : ∀ places after, ctl.plant.places = places ++ after →
      f ∈ (ctl.progress kind places).report.faults → ∃ before place, ctl.FailsAt kind before place f from
    hall ctl.plant.places [] (List.append_nil _).symm h
  intro places
  induction places using List.reverseRecOn with
  | nil => exact fun _ _ hf => nomatch hf
  | append_singleton places place ih =>
    intro after hplaces hf
    rw [List.append_assoc] at hplaces
    rw [progress_concat, visitPlace_faults, List.mem_append, Option.mem_toList] at hf
    rcases hf with hf | hf
    · exact ih _ hplaces hf
    · obtain ⟨fault, hfault, rfl⟩ := Option.map_eq_some_iff.mp hf
      exact ⟨places, place, ⟨after, hplaces⟩, hfault, rfl⟩

/-- What a visit makes of its row: it tells whether the device is there, it is at an end, and no step towards it was
refused. -/
structure Settles (ctl : Controller σ) (kind : RunKind) (p : Progress σ) (place : Chassis σ × Device σ)
    (present : Bool) : Prop where
  known : ∃ t, (ctl.visitContext ctl.cycles p.report.captures place.2.id).resolvePresence place.2.id
    { hardware := p.hardware, presence := p.presence } = (.ok present, t)
  absent : present = false → (ctl.visitOf kind ctl.cycles p place).fault = none
  row : ctl.rowOf kind p place =
    { chassis := place.1.id, device := place.2.id, present := some present,
      stage := (ctl.visitOf kind ctl.cycles p place).fault.elim .done fun _ => .errored }
  allowed : ctl.rowBy DeviceRow.advance? kind p place = some (ctl.rowOf kind p place)

theorem settles (kind : RunKind) (p : Progress σ) (hplace : place ∈ ctl.plant.places) :
    ∃ present, ctl.Settles kind p place present := by
  obtain ⟨d, hd⟩ := Plant.device?_of_mem (Plant.mem_devices_of_place hplace)
  obtain ⟨present, t, hpresent⟩ := Context.resolvePresence_answers
    (c := ctl.visitContext ctl.cycles p.report.captures place.2.id) hd List.not_mem_nil
    { hardware := p.hardware, presence := p.presence }
  -- A row that starts anew gets to the end by steps none of which is refused.
  obtain ⟨habsent, hvisited, hallowed⟩ := Context.visit_of_presence kind
    { chassis := place.1.id, device := place.2.id } rfl hpresent
  have hby : ctl.rowBy DeviceRow.advance? kind p place =
      (ctl.visitOf kind ctl.cycles p place).fault.elim (some (ctl.visitOf kind ctl.cycles p place).row)
        fun _ => (ctl.visitOf kind ctl.cycles p place).row.advance? .errored := by
    unfold rowBy
    rw [hallowed]
    show (match (ctl.visitOf kind ctl.cycles p place).fault with | none => _ | some _ => _) = _
    cases (ctl.visitOf kind ctl.cycles p place).fault <;> rfl
  have hrow : (ctl.visitOf kind ctl.cycles p place).row =
      { chassis := place.1.id, device := place.2.id, present := some present,
        stage := (ctl.visitOf kind ctl.cycles p place).fault.elim .done fun _ => kind.stage } := hvisited
  refine ⟨present, ⟨t, hpresent⟩, habsent, ?_, ?_⟩
  · rw [rowOf_eq, hrow]
    cases (ctl.visitOf kind ctl.cycles p place).fault with
    | none => rfl
    | some fault => cases kind <;> rfl
  · rw [hby, rowOf_eq, hrow]
    cases (ctl.visitOf kind ctl.cycles p place).fault with
    | none => rfl
    | some fault => cases kind <;> rfl

end Controller

/-! ### Reports -/

/-- The rows and the faults of a report account for visits of some devices, by chassis and device. -/
structure Report.Accounts (r : Report) (visited : List (String × String)) : Prop where
  rows : r.rows.map (fun row => (row.chassis, row.device)) = visited
  known : ∀ row ∈ r.rows, ∃ present, row.present = some present
  ended : ∀ row ∈ r.rows, row.stage = .done ∨ row.stage = .errored
  absent : ∀ row ∈ r.rows, row.present = some false → row.stage = .done
  /-- There is one fault for each row that is errored, in the order of the rows. -/
  faults : r.faults.map (fun f => (f.chassis, f.device)) =
    (r.rows.filter (·.stage = .errored)).map fun row => (row.chassis, row.device)

namespace Report.Accounts
variable {r : Report} {visited : List (String × String)}

theorem status_eq (h : r.Accounts visited) : r.status = .complete := by
  refine if_pos (List.all_eq_true.mpr fun row hrow => ?_)
  rcases h.ended row hrow with hstage | hstage <;> rw [hstage] <;> rfl

theorem succeeded_iff (h : r.Accounts visited) : r.succeeded = true ↔ ∀ row ∈ r.rows, row.stage ≠ .errored := by
  have hlength : r.faults.length = (r.rows.filter (·.stage = .errored)).length := by
    simpa using congrArg List.length h.faults
  rw [succeeded, h.status_eq, beq_self_eq_true, Bool.true_and, List.isEmpty_iff_length_eq_zero, hlength,
    List.length_eq_zero_iff, List.filter_eq_nil_iff]
  simp only [decide_eq_true_eq, ne_eq]

end Report.Accounts

namespace Controller
variable {ctl : Controller σ} {kind : RunKind} {p : Progress σ} {place : Chassis σ × Device σ}

/-- A visit adds its row to the account. -/
theorem accounts_visitPlace {visited : List (String × String)} (hplace : place ∈ ctl.plant.places)
    (h : p.report.Accounts visited) :
    (ctl.visitPlace kind ctl.cycles p place).report.Accounts (visited ++ [(place.1.id, place.2.id)]) := by
  obtain ⟨present, hsettles⟩ := settles kind p hplace
  have hrow := hsettles.row
  have hrows := visitPlace_rows ctl kind p place
  have each : ∀ {motive : DeviceRow → Prop}, (∀ row ∈ p.report.rows, motive row) → motive (ctl.rowOf kind p place) →
      ∀ row ∈ (ctl.visitPlace kind ctl.cycles p place).report.rows, motive row := fun hold hnew row hmem => by
    rw [hrows] at hmem
    rcases List.mem_append.mp hmem with hmem | hmem
    · exact hold row hmem
    · exact List.mem_singleton.mp hmem ▸ hnew
  refine ⟨?_, each h.known ?_, each h.ended ?_, each h.absent ?_, ?_⟩
  · rw [hrows, List.map_append, h.rows, hrow]
    rfl
  · exact ⟨present, by rw [hrow]⟩
  · rw [hrow]
    cases (ctl.visitOf kind ctl.cycles p place).fault with
    | none => exact Or.inl rfl
    | some fault => exact Or.inr rfl
  · intro hfalse
    rw [hrow] at hfalse ⊢
    rw [hsettles.absent (Option.some.inj hfalse)]
    rfl
  · rw [visitPlace_faults, hrows, List.map_append, List.filter_append, List.map_append, h.faults, hrow]
    cases (ctl.visitOf kind ctl.cycles p place).fault <;> rfl

theorem accounts_progress (ctl : Controller σ) (kind : RunKind) {places : List (Chassis σ × Device σ)}
    (h : places ⊆ ctl.plant.places) :
    (ctl.progress kind places).report.Accounts (places.map fun place => (place.1.id, place.2.id)) := by
  induction places using List.reverseRecOn with
  | nil => exact ⟨rfl, nofun, nofun, nofun, rfl⟩
  | append_singleton places place ih =>
    obtain ⟨hplaces, hplace⟩ := List.append_subset.mp h
    rw [progress_concat, List.map_append]
    exact accounts_visitPlace (hplace List.mem_cons_self) (ih hplaces)

theorem length_rows_progress (places : List (Chassis σ × Device σ)) :
    (ctl.progress kind places).report.rows.length = places.length := by
  induction places using List.reverseRecOn with
  | nil => rfl
  | append_singleton places place ih =>
    simp [progress_concat, visitPlace_rows, ih]

theorem rows_progress_append (places rest : List (Chassis σ × Device σ)) :
    (ctl.progress kind places).report.rows <+: (ctl.progress kind (places ++ rest)).report.rows := by
  induction rest using List.reverseRecOn with
  | nil => simp
  | append_singleton rest place ih =>
    rw [← List.append_assoc, progress_concat, visitPlace_rows]
    exact ih.trans (List.prefix_append _ _)

/-- The row of a visit stands in the report at the place of the visit. -/
theorem row_visitAll {before after : List (Chassis σ × Device σ)} (h : ctl.plant.places = before ++ place :: after) :
    (ctl.visitAll kind).report.rows[before.length]? = some (ctl.rowOf kind (ctl.progress kind before) place) := by
  have hrows : (ctl.progress kind before).report.rows ++ [ctl.rowOf kind (ctl.progress kind before) place] <+:
      (ctl.visitAll kind).report.rows := by
    rw [← visitPlace_rows, ← progress_concat, ← progress_places, h, List.append_cons before place after]
    exact rows_progress_append _ after
  obtain ⟨later, hlater⟩ := hrows
  have hlength : (ctl.progress kind before).report.rows.length = before.length := length_rows_progress before
  rw [← hlater, ← hlength, List.append_assoc, List.getElem?_append_right (Nat.le_refl _), Nat.sub_self]
  rfl

/-- The report of a run accounts for every device. -/
theorem run_accounts_for_devices (ctl : Controller σ) (kind : RunKind) :
    ∃ r, (ctl.run kind).1.lastReport = some r ∧
      r.Accounts (ctl.plant.places.map fun place => (place.1.id, place.2.id)) ∧
      r.status = .complete ∧ (r.succeeded = true ↔ ∀ row ∈ r.rows, row.stage ≠ .errored) ∧
      ∀ before place after, ctl.plant.places = before ++ place :: after →
        ∃ present, ctl.Settles kind (ctl.progress kind before) place present ∧
          r.rows[before.length]? = some (ctl.rowOf kind (ctl.progress kind before) place) := by
  have haccounts := ctl.accounts_progress kind (List.Subset.refl ctl.plant.places)
  rw [progress_places] at haccounts
  have hfinished : Report.Accounts { (ctl.visitAll kind).report with finished := true } _ := { haccounts with }
  refine ⟨_, rfl, hfinished, hfinished.status_eq, hfinished.succeeded_iff, fun before place after h => ?_⟩
  obtain ⟨present, hsettles⟩ := settles kind (ctl.progress kind before) (h ▸ by simp : place ∈ ctl.plant.places)
  exact ⟨present, hsettles, row_visitAll h⟩

end Controller
end
end PowerRails
