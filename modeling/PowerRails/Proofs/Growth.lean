import PowerRails.Proofs.CaptureKey
import PowerRails.Proofs.Regime

/-! # Growth

Nothing that is carried out takes anything back. What was found, read, captured or noted before stays, and
stays in front of what is added; a presence result of the cycle stays as it is, and new ones are of this cycle
and of devices that exist. -/

namespace PowerRails

section
variable {σ : Type}

/-- What is in a state `s` is still in `t`, as seen by what is carried out in the context. -/
structure Grows (c : Context σ) (s t : State σ) : Prop where
  findings : s.findings <+: t.findings
  readings : s.readings <+: t.readings
  activity : s.activity <+: t.activity
  captures : ∀ {key value}, s.captures.get? key = some value → t.captures.get? key = some value
  presence : ∀ {id b}, s.presence.get? id c.cycle = some b → t.presence.get? id c.cycle = some b
  /-- An entry that was not there before is of this cycle and of a device, and replaces none of this cycle. -/
  entry : ∀ {id e}, t.presence.results.get? id = some e → s.presence.results.get? id = some e ∨
    (e.cycle = c.cycle ∧ (∃ d, c.plant.device? id = some d) ∧ s.presence.get? id c.cycle = none)
  /-- The result of a device whose detection is under way is left to that detection. -/
  detecting : ∀ id ∈ c.detecting, t.presence.results.get? id = s.presence.results.get? id

/-! ### Elementary steps -/

/-- How a transfer fails, if it does, and the hardware after it. -/
def Transfer.outcome {α : Type} (t : Transfer σ α) (h : σ) : Option BusError × σ :=
  (match (t h).1 with
    | .ok _ => none
    | .error e => some e, (t h).2)

namespace Context
variable {c : Context σ} {s : State σ}

theorem transfer_state {α : Type} (register : UInt8) (request : Request) (step : Transfer σ α) :
    (c.transfer register request step s).2 =
      { s with
        hardware := (step.outcome s.hardware).2,
        activity := s.activity ++ [c.accessed s.presence request (step.outcome s.hardware).1] } := by
  unfold transfer Transfer.outcome
  rcases step s.hardware with ⟨e | answer, hardware⟩ <;> rfl

/-- What the sensors service is told, if there is one. -/
def told (c : Context σ) (notice : Notice) : List Activity :=
  (c.sensorsService.map fun service => Activity.notice service notice).toList

theorem accesses_told (c : Context σ) (notice : Notice) : Activity.accesses (c.told notice) = [] := by
  unfold told
  cases c.sensorsService <;> rfl

theorem tellService_apply (notice : Notice) :
    c.tellService notice s = (.ok (), { s with activity := s.activity ++ c.told notice }) := by
  unfold tellService told
  cases c.sensorsService with
  | none => simp
  | some service => rfl

theorem recordReading_apply (name : String) (kind : SensorKind) (value : Int) :
    c.recordReading name kind value s =
      (.ok (), { s with
        readings := s.readings ++ [{ device := c.scope.device, rail := c.scope.rail, name, kind, value }],
        activity := s.activity ++ c.told (.value kind value) }) := by
  unfold recordReading
  simp only [Op.bind_apply, Op.update_apply, tellService_apply]

theorem capture_apply (register : UInt8) (bytes : Bytes) :
    c.capture register bytes s =
      let key := s.captures.freeKey c.earlier (Captures.base c.scope.device register)
      (.ok key, { s with
        captures := s.captures.insert key (Hex.bytes bytes),
        activity := s.activity ++ [.captured c.scope.device register key bytes] }) := rfl

theorem detectionVerdict_error (id : String) (fault : Fault) :
    detectionVerdict id (.error fault) s =
      (.ok false, { s with
        findings := s.findings ++
          [{ severity := .warning, code := "presence_detection_failed", device := id, message := fault.text }],
        activity := s.activity ++ [.log (.detectionFailed id fault)] }) := rfl

end Context

namespace Grows
variable {c c' : Context σ} {s t u : State σ}

theorem refl (c : Context σ) (s : State σ) : Grows c s s where
  findings := List.prefix_rfl
  readings := List.prefix_rfl
  activity := List.prefix_rfl
  captures h := h
  presence h := h
  entry h := Or.inl h
  detecting _ _ := rfl

theorem trans (h₁ : Grows c s t) (h₂ : Grows c t u) : Grows c s u where
  findings := h₁.findings.trans h₂.findings
  readings := h₁.readings.trans h₂.readings
  activity := h₁.activity.trans h₂.activity
  captures h := h₂.captures (h₁.captures h)
  presence h := h₂.presence (h₁.presence h)
  entry {id e} h := by
    rcases h₂.entry h with h | ⟨hcycle, hdev, hnone⟩
    · exact h₁.entry h
    · refine Or.inr ⟨hcycle, hdev, ?_⟩
      cases hs : s.presence.get? id c.cycle with
      | none => rfl
      | some b => exact absurd (h₁.presence hs) (by simp [hnone])
  detecting id h := (h₂.detecting id h).trans (h₁.detecting id h)

/-- Of the context, only the plant, the cycle and the detections under way matter. -/
theorem of_context (h : Grows c' s t) (hp : c'.plant = c.plant) (hc : c'.cycle = c.cycle)
    (hd : c.detecting ⊆ c'.detecting) : Grows c s t where
  findings := h.findings
  readings := h.readings
  activity := h.activity
  captures := h.captures
  presence := hc ▸ h.presence
  entry := hp ▸ hc ▸ h.entry
  detecting id hid := h.detecting id (hd hid)

/-- A step that leaves the presence results and the captures alone. -/
theorem of_same (hp : t.presence = s.presence) (hc : t.captures = s.captures) (hf : s.findings <+: t.findings)
    (hr : s.readings <+: t.readings) (ha : s.activity <+: t.activity) : Grows c s t where
  findings := hf
  readings := hr
  activity := ha
  captures h := hc ▸ h
  presence h := hp ▸ h
  entry h := Or.inl (hp ▸ h)
  detecting _ _ := hp ▸ rfl

theorem note (a : Activity) : Grows c s (Op.note a s).2 :=
  of_same rfl rfl List.prefix_rfl List.prefix_rfl (List.prefix_append _ _)

theorem pushFinding (f : Finding) : Grows c s (Context.pushFinding f s).2 :=
  of_same rfl rfl (List.prefix_append _ _) List.prefix_rfl List.prefix_rfl

theorem transfer {α : Type} (register : UInt8) (request : Request) (step : Transfer σ α) :
    Grows c s (c.transfer register request step s).2 := by
  rw [Context.transfer_state]
  exact of_same rfl rfl List.prefix_rfl List.prefix_rfl (List.prefix_append _ _)

theorem capture (register : UInt8) (bytes : Bytes) : Grows c s (c.capture register bytes s).2 where
  findings := List.prefix_rfl
  readings := List.prefix_rfl
  activity := List.prefix_append _ _
  captures {key value} h := by
    obtain ⟨hown, -⟩ := Captures.freeKey_free s.captures c.earlier s!"{c.scope.device}_register_{Hex.byte register}"
    have hne : key ≠ s.captures.freeKey c.earlier s!"{c.scope.device}_register_{Hex.byte register}" := by
      rintro rfl
      simp [Table.contains, h] at hown
    exact (Table.get?_insert_of_ne _ hne _).trans h
  presence h := h
  entry h := Or.inl h
  detecting _ _ := rfl

theorem recordReading (name : String) (kind : SensorKind) (value : Int) :
    Grows c s (c.recordReading name kind value s).2 := by
  rw [Context.recordReading_apply]
  exact of_same rfl rfl List.prefix_rfl (List.prefix_append _ _) (List.prefix_append _ _)

theorem tellService (notice : Notice) : Grows c s (c.tellService notice s).2 := by
  rw [Context.tellService_apply]
  exact of_same rfl rfl List.prefix_rfl List.prefix_rfl (List.prefix_append _ _)

theorem detectionVerdict (id : String) (outcome : Except Fault Bool) :
    Grows c s (Context.detectionVerdict id outcome s).2 := by
  cases outcome with
  | ok present => exact refl c s
  | error fault =>
    exact of_same rfl rfl (List.prefix_append _ _) List.prefix_rfl (List.prefix_append _ _)

/-- A result is kept where there was none of this cycle. -/
theorem keepPresence {id : String} {d : Device σ} (present : Bool) (hd : c.plant.device? id = some d)
    (hnew : id ∉ c.detecting) (hnone : s.presence.get? id c.cycle = none) :
    Grows c s (c.keepPresence id present s).2 where
  findings := List.prefix_rfl
  readings := List.prefix_rfl
  activity := List.prefix_rfl
  captures h := h
  presence {other b} h := by
    have hne : other ≠ id := by
      rintro rfl
      simp [h] at hnone
    simpa [PresenceCache.get?_insert, hne] using h
  entry {other e} h := by
    simp only [Context.keepPresence_apply, PresenceCache.insert, Table.get?_insert] at h
    split at h
    · rename_i heq
      subst heq
      cases h
      exact Or.inr ⟨rfl, ⟨d, hd⟩, hnone⟩
    · exact Or.inl h
  detecting other hother := by
    have hne : other ≠ id := fun h => hnew (h ▸ hother)
    simp [PresenceCache.insert, Table.get?_insert, hne]

end Grows

/-! ### Whole tasks -/

/-- Everything that is carried out anywhere only adds. -/
def growing (σ : Type) : Regime σ where
  may := fun _ => True
  fits := fun _ _ => True
  moves := Grows

theorem growing_law (σ : Type) : (growing σ).Law where
  refl := Grows.refl
  trans := Grows.trans
  stays _ _ := trivial
  asks_of_fits _ := trivial
  closed _ := Plant.Closed.univ _
  unresolved {c s t id} h hid hnone := by
    have := h.detecting id hid
    simpa only [PresenceCache.get?, this] using hnone
  inDevice _ _ _ _ := ⟨trivial, fun _ h => h.of_context rfl rfl fun _ h => h⟩
  inRail _ _ := ⟨trivial, fun _ h => h.of_context rfl rfl fun _ h => h⟩
  inRule _ _ _ := ⟨trivial, fun _ h => h.of_context rfl rfl fun _ h => h⟩
  transfer register _ _ _ := Grows.transfer register _ _
  addFinding _ _ _ _ _ := Grows.pushFinding _
  capture register bytes _ := Grows.capture register bytes
  recordReading name kind value _ := Grows.recordReading name kind value
  detection _ _ _ _ _ _ :=
    ⟨Grows.note _, trivial, fun _ h => h.of_context rfl rfl (List.subset_append_left _ _)⟩
  detectionVerdict outcome _ _ _ := Grows.detectionVerdict _ outcome
  keepPresence present _ _ hd hnew hnone := Grows.keepPresence present hd hnew hnone

theorem Context.grows_carryOut (c : Context σ) (t : Task) (s : State σ) : Grows c s (c.carryOut t s).2 :=
  (growing_law σ).taskLaw.carryOut c t s trivial trivial

end
end PowerRails
