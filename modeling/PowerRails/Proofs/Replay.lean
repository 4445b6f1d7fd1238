import PowerRails.Proofs.Run

/-! # Replay

The accesses that a run notes are all that it does to hardware: made again in their order, on the buses of the
devices that they name, they fail as is noted and leave the hardware that the run leaves. -/

namespace PowerRails

section
variable {σ : Type}

/-- How a bus meets a request: how it fails, if it does, and the hardware after it. -/
def Bus.serve (b : Bus σ) : Request → σ → Option BusError × σ
  | .connect => b.connect.outcome
  | .read register count => (b.read register count).outcome
  | .readByte register => (b.readByte register).outcome
  | .write register data => (b.write register data).outcome

theorem Bus.Serves.outcome_eq {b : Bus σ} {α : Type} {request : Request} {step : Transfer σ α}
    (h : b.Serves request step) : step.outcome = b.serve request := by cases h <;> rfl

/-- Accesses lead from one state of the hardware to another, each failing as is noted. -/
def Plant.Replays (p : Plant σ) : List Access → σ → σ → Prop
  | [], h, k => h = k
  | a :: as, h, k =>
    ∃ d l, p.device? a.scope.device = some d ∧ d.bus.serve a.request h = (a.failure, l) ∧ p.Replays as l k

theorem Plant.Replays.append {p : Plant σ} {as bs : List Access} {h k l : σ} (ha : p.Replays as h k)
    (hb : p.Replays bs k l) : p.Replays (as ++ bs) h l := by
  induction as generalizing h with
  | nil =>
    cases ha
    exact hb
  | cons a as ih =>
    obtain ⟨d, m, hd, hserve, hrest⟩ := ha
    exact ⟨d, m, hd, hserve, ih hrest⟩

/-- Hardware changes by the accesses that are noted. -/
def noting (σ : Type) : Regime σ where
  may := fun _ => True
  fits := fun _ _ => True
  moves := fun c s t => Grows c s t ∧ ∃ made,
    Activity.accesses t.activity = Activity.accesses s.activity ++ made ∧ c.plant.Replays made s.hardware t.hardware

variable {c : Context σ} {s t : State σ}

theorem noting_of_grows (h : Grows c s t) (hh : t.hardware = s.hardware)
    (ha : Activity.accesses t.activity = Activity.accesses s.activity) : (noting σ).moves c s t :=
  ⟨h, [], by rw [ha, List.append_nil], hh.symm⟩

theorem noting_note {x : Activity} (hx : Activity.accesses [x] = []) : (noting σ).moves c s (Op.note x s).2 :=
  noting_of_grows (Grows.note x) rfl ((Activity.accesses_append _ _).trans (by rw [hx, List.append_nil]))

theorem noting_transfer {d : Device σ} (hd : c.device = .ok d) (register : UInt8) {α : Type} {request : Request}
    {step : Transfer σ α} (hserves : d.bus.Serves request step) :
    (noting σ).moves c s (c.transfer register request step s).2 := by
  refine ⟨Grows.transfer register request step, ?_⟩
  rw [Context.transfer_state, hserves.outcome_eq]
  exact ⟨_, Activity.accesses_append _ _, d, _, Plant.device_eq_ok_iff.mp hd, rfl, rfl⟩

theorem noting_tellService (notice : Notice) : (noting σ).moves c s (c.tellService notice s).2 := by
  refine noting_of_grows (Grows.tellService notice) ?_ ?_
  · rw [Context.tellService_apply]
  · rw [Context.tellService_apply, Activity.accesses_append, Context.accesses_told, List.append_nil]

theorem noting_recordReading (name : String) (kind : SensorKind) (value : Int) :
    (noting σ).moves c s (c.recordReading name kind value s).2 := by
  refine noting_of_grows (Grows.recordReading name kind value) ?_ ?_
  · rw [Context.recordReading_apply]
  · rw [Context.recordReading_apply, Activity.accesses_append, Context.accesses_told, List.append_nil]

theorem noting_detectionVerdict (id : String) (outcome : Except Fault Bool) :
    (noting σ).moves c s (Context.detectionVerdict id outcome s).2 := by
  refine noting_of_grows (Grows.detectionVerdict id outcome) ?_ ?_ <;> cases outcome with
  | ok present => rfl
  | error fault => simp [Context.detectionVerdict_error, Activity.accesses]

theorem noting_law (σ : Type) : (noting σ).Law where
  refl c s := ⟨Grows.refl c s, [], (List.append_nil _).symm, rfl⟩
  trans {c s t u} h₁ h₂ := by
    obtain ⟨hgrows, made, hmade, hreplay⟩ := h₁
    obtain ⟨hgrows', made', hmade', hreplay'⟩ := h₂
    exact ⟨hgrows.trans hgrows', made ++ made', by rw [hmade', hmade, List.append_assoc], hreplay.append hreplay'⟩
  stays _ _ := trivial
  asks_of_fits _ := trivial
  closed _ := Plant.Closed.univ _
  unresolved h := (growing_law σ).unresolved h.1
  inDevice _ _ _ _ := ⟨trivial, fun _ h => ⟨h.1.of_context rfl rfl fun _ h => h, h.2⟩⟩
  inRail _ _ := ⟨trivial, fun _ h => ⟨h.1.of_context rfl rfl fun _ h => h, h.2⟩⟩
  inRule _ _ _ := ⟨trivial, fun _ h => ⟨h.1.of_context rfl rfl fun _ h => h, h.2⟩⟩
  transfer register _ hd hserves := noting_transfer hd register hserves
  addFinding _ _ _ _ _ := noting_of_grows (Grows.pushFinding _) rfl rfl
  capture register bytes _ := by
    refine noting_of_grows (Grows.capture register bytes) rfl ?_
    exact (Activity.accesses_append _ _).trans (List.append_nil _)
  recordReading name kind value _ := noting_recordReading name kind value
  detection _ _ _ _ _ _ :=
    ⟨noting_note rfl, trivial, fun _ h => ⟨h.1.of_context rfl rfl (List.subset_append_left _ _), h.2⟩⟩
  detectionVerdict outcome _ _ _ := noting_detectionVerdict _ outcome
  keepPresence present _ _ hd hnew hnone := noting_of_grows (Grows.keepPresence present hd hnew hnone) rfl rfl

theorem noting_visitLaw (σ : Type) : (noting σ).VisitLaw where
  toTaskLaw := (noting_law σ).taskLaw
  arrive _ _ := trivial
  withVolts _ _ := ⟨trivial, fun _ h => ⟨h.1.of_context rfl rfl fun _ h => h, h.2⟩⟩
  tellService _ _ := noting_tellService _
  skipped _ := noting_note rfl
  visited _ _ := noting_note rfl

namespace Controller

variable {ctl : Controller σ} {kind : RunKind} {cycle : Cycle}

theorem visitPlace_replays {p : Progress σ} (place : Chassis σ × Device σ) {h : σ}
    (hp : ctl.plant.Replays (Activity.accesses p.activity) h p.hardware) :
    ctl.plant.Replays (Activity.accesses (ctl.visitPlace kind cycle p place).activity) h
      (ctl.visitPlace kind cycle p place).hardware := by
  obtain ⟨-, made, hmade, hreplay⟩ := visitOf_moves ctl kind cycle p place (noting_visitLaw σ) trivial trivial
    fun _ _ => trivial
  obtain ⟨entries, hactivity⟩ := visitPlace_activity ctl kind cycle p place
  have hentries : Activity.accesses (entries.map Activity.log) = [] := by simp [Activity.accesses]
  have hvisit : Activity.accesses (ctl.visitOf kind cycle p place).state.activity = made := hmade
  rw [hactivity, Activity.accesses_append, Activity.accesses_append, hentries, hvisit, List.append_nil,
    visitPlace_hardware]
  exact hp.append hreplay

theorem run_replays (ctl : Controller σ) (kind : RunKind) :
    ctl.plant.Replays (Activity.accesses (ctl.run kind).2) ctl.hardware (ctl.run kind).1.hardware := by
  rw [accesses_run]
  exact visitAll_induct (motive := fun p => ctl.plant.Replays (Activity.accesses p.activity) ctl.hardware p.hardware)
    rfl fun _ place _ => visitPlace_replays place

end Controller
end
end PowerRails
