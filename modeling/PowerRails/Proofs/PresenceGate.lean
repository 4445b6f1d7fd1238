import PowerRails.Proofs.Replay

/-! # The presence gate

Hardware is accessed on behalf of a device only when the device was found to be there, or while its own
presence is being found out. The scope of a context is either a device that passed the gate or the device of
the innermost detection under way; both stay so until the scope is left, because a presence result of the
cycle never changes and a detection takes its scope with it. -/

namespace PowerRails

/-- An access that the gate lets pass: its device was found to be there before, or its device is the one whose
presence was being found out. -/
def Access.Cleared (a : Access) : Prop := a.known = some true ∨ a.detecting.getLast? = some a.scope.device

section
variable {σ : Type}

/-- The active device is known to be there in this cycle, or its own detection is what is under way. -/
def Context.Cleared (c : Context σ) (s : State σ) : Prop :=
  s.presence.get? c.scope.device c.cycle = some true ∨ c.detecting.getLast? = some c.scope.device

/-- All accesses among some activity passed the gate, and those that passed it by a presence result went by one
that still stands. -/
def Gated (cycle : Cycle) (presence : PresenceCache) (activity : List Activity) : Prop :=
  ∀ a, .access a ∈ activity → a.Cleared ∧ (a.known = some true → presence.get? a.scope.device cycle = some true)

theorem Gated.of_subset {cycle : Cycle} {presence presence' : PresenceCache} {activity activity' : List Activity}
    (h : Gated cycle presence activity)
    (hp : ∀ {id b}, presence.get? id cycle = some b → presence'.get? id cycle = some b)
    (ha : ∀ a, .access a ∈ activity' → .access a ∈ activity) : Gated cycle presence' activity' := fun a hmem =>
  ⟨(h a (ha a hmem)).1, fun hknown => hp ((h a (ha a hmem)).2 hknown)⟩

theorem Gated.append {cycle : Cycle} {presence : PresenceCache} {as bs : List Activity}
    (ha : Gated cycle presence as) (hb : Gated cycle presence bs) : Gated cycle presence (as ++ bs) := fun a hmem => by
  rcases List.mem_append.mp hmem with h | h
  · exact ha a h
  · exact hb a h

/-- Where the active device passed the gate, so does every access. -/
def gate (σ : Type) : Regime σ where
  may := fun _ => True
  fits := Context.Cleared
  moves := fun c s t =>
    Grows c s t ∧ (Gated c.cycle s.presence s.activity → Gated c.cycle t.presence t.activity)

theorem gate_of_grows {c : Context σ} {s t : State σ} (h : Grows c s t)
    (ha : ∀ a, .access a ∈ t.activity → .access a ∈ s.activity) : (gate σ).moves c s t :=
  ⟨h, fun hs => hs.of_subset h.presence ha⟩

theorem gate_transfer {c : Context σ} {s : State σ} {α : Type} (hf : c.Cleared s) (register : UInt8)
    (request : Request) (step : Transfer σ α) : (gate σ).moves c s (c.transfer register request step s).2 := by
  refine ⟨Grows.transfer register request step, fun hs => ?_⟩
  rw [Context.transfer_state]
  refine hs.append fun a ha => ?_
  rw [List.mem_singleton, Context.accessed, Activity.access.injEq] at ha
  subst ha
  exact ⟨hf, id⟩

theorem gate_law (σ : Type) : (gate σ).Law where
  refl c s := ⟨Grows.refl c s, id⟩
  trans h₁ h₂ := ⟨h₁.1.trans h₂.1, h₂.2 ∘ h₁.2⟩
  stays hf h := hf.imp_left h.1.presence
  asks_of_fits _ := trivial
  closed _ := Plant.Closed.univ _
  unresolved h := (growing_law σ).unresolved h.1
  inDevice _ _ hp _ := ⟨Or.inl hp, fun _ h => ⟨h.1.of_context rfl rfl fun _ h => h, h.2⟩⟩
  inRail hf _ := ⟨hf, fun _ h => ⟨h.1.of_context rfl rfl fun _ h => h, h.2⟩⟩
  inRule hf _ _ := ⟨hf, fun _ h => ⟨h.1.of_context rfl rfl fun _ h => h, h.2⟩⟩
  transfer register hf _ _ := gate_transfer hf register _ _
  addFinding _ _ _ _ _ := gate_of_grows (Grows.pushFinding _) fun _ h => h
  capture register bytes _ := gate_of_grows (Grows.capture register bytes) fun _ h => by
    simpa [Context.capture] using h
  recordReading name kind value _ := gate_of_grows (Grows.recordReading name kind value) fun _ h => by
    simpa [Context.recordReading_apply, Context.told] using h
  detection _ _ _ _ _ _ := by
    refine ⟨gate_of_grows (Grows.note _) fun _ h => by simpa [Op.note] using h, ?_, fun _ h => ?_⟩
    · exact Or.inr (by simp [Context.detached, Context.enter])
    · exact ⟨h.1.of_context rfl rfl (List.subset_append_left _ _), h.2⟩
  detectionVerdict outcome _ _ _ := gate_of_grows (Grows.detectionVerdict _ outcome) fun _ h => by
    cases outcome with
    | ok present => exact h
    | error fault => simpa [Context.detectionVerdict_error] using h
  keepPresence present _ _ hd hnew hnone := gate_of_grows (Grows.keepPresence present hd hnew hnone) fun _ h => h

theorem gate_visitLaw (σ : Type) : (gate σ).VisitLaw where
  toTaskLaw := (gate_law σ).taskLaw
  arrive _ hp := Or.inl hp
  withVolts _ hf := ⟨hf, fun _ h => ⟨h.1.of_context rfl rfl fun _ h => h, h.2⟩⟩
  tellService {c s notice} _ _ := by
    refine gate_of_grows (Grows.tellService notice) fun _ h => ?_
    simpa [Context.tellService_apply, Context.told] using h
  skipped _ := gate_of_grows (Grows.note _) fun _ h => by simpa [Op.note] using h
  visited _ _ := gate_of_grows (Grows.note _) fun _ h => by simpa [Op.note] using h

namespace Controller

/-- One visit keeps the gate shut: its own accesses pass, and the results that earlier ones went by stand. -/
theorem gated_visitPlace {ctl : Controller σ} {kind : RunKind} {cycle : Cycle} {p : Progress σ}
    (place : Chassis σ × Device σ) (h : Gated cycle p.presence p.activity) :
    Gated cycle (ctl.visitPlace kind cycle p place).presence (ctl.visitPlace kind cycle p place).activity := by
  obtain ⟨hgrows, hgate⟩ := visitOf_moves ctl kind cycle p place (gate_visitLaw σ) trivial trivial fun _ _ => trivial
  obtain ⟨entries, hactivity⟩ := visitPlace_activity ctl kind cycle p place
  rw [visitPlace_presence, hactivity]
  have hbefore : Gated cycle (ctl.visitOf kind cycle p place).state.presence p.activity :=
    h.of_subset hgrows.presence fun _ h => h
  have hvisit := hgate fun _ ha => absurd ha List.not_mem_nil
  exact (hbefore.append hvisit).append fun _ ha => by simp at ha

theorem gated_visitAll (ctl : Controller σ) (kind : RunKind) :
    Gated ctl.cycles (ctl.visitAll kind).presence (ctl.visitAll kind).activity :=
  visitAll_induct (motive := fun p => Gated ctl.cycles p.presence p.activity)
    (fun _ ha => absurd ha List.not_mem_nil) fun _ place _ h => gated_visitPlace place h

/-- In every run, each access to hardware is made for a device that the cycle had found to be there by then, or
for the device whose presence was being found out innermost. So a device that the cycle finds to be absent is
accessed by its own detection only, whatever else is carried out in the run. These accesses are all that the run
does to hardware. -/
theorem access_passes_gate (ctl : Controller σ) (kind : RunKind) :
    (∀ a ∈ Activity.accesses (ctl.run kind).2,
      a.known = some true ∨ a.detecting.getLast? = some a.scope.device) ∧
    (∀ id, (ctl.run kind).1.presence.get? id ctl.cycles = some false →
      ∀ a ∈ Activity.accesses (ctl.run kind).2, a.scope.device = id → a.detecting.getLast? = some id) ∧
    ctl.plant.Replays (Activity.accesses (ctl.run kind).2) ctl.hardware (ctl.run kind).1.hardware := by
  have hall := gated_visitAll ctl kind
  have hgated : ∀ a ∈ Activity.accesses (ctl.run kind).2, a.Cleared ∧
      (a.known = some true → (ctl.visitAll kind).presence.get? a.scope.device ctl.cycles = some true) := fun a ha =>
    hall a (Activity.mem_accesses.mp (accesses_run ctl kind ▸ ha))
  refine ⟨fun a ha => (hgated a ha).1, fun id habsent a ha hid => ?_, run_replays ctl kind⟩
  obtain ⟨hknown | hdetecting, hstands⟩ := hgated a ha
  · have hpresent := hstands hknown
    have habsent : (ctl.visitAll kind).presence.get? id ctl.cycles = some false := habsent
    rw [hid, habsent] at hpresent
    cases hpresent
  · exact hid ▸ hdetecting

end Controller
end
end PowerRails
