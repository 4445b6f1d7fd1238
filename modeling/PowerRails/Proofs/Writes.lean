import PowerRails.Proofs.Demand

/-! # Writes

A device is told something only by a write. An access makes one write if that is what it asks for, and if the bus is
open or can be opened, and otherwise none; it records nothing but itself. -/

namespace PowerRails

/-- A write that is attempted: on whose behalf, to which register, and which bytes. -/
structure Write where
  scope : Scope
  register : UInt8
  data : Bytes
deriving DecidableEq, Repr

/-- The write that a request asks for, if it is one. -/
def Request.write? (scope : Scope) : Request → Option Write
  | .write register data => some ⟨scope, register, data⟩
  | _ => none

/-- The writes that are attempted in some activity. -/
def Activity.writes (as : List Activity) : List Write :=
  (Activity.accesses as).filterMap fun a => a.request.write? a.scope

theorem Activity.writes_append (as bs : List Activity) :
    Activity.writes (as ++ bs) = Activity.writes as ++ Activity.writes bs := by
  rw [writes, accesses_append, List.filterMap_append]
  rfl

section
variable {σ α : Type}

/-- From one state to another these writes are attempted, and no others. -/
def State.Writes (s t : State σ) (ws : List Write) : Prop :=
  Activity.writes t.activity = Activity.writes s.activity ++ ws

namespace State.Writes
variable {s t u : State σ} {ws vs : List Write}

theorem of_accesses (h : Activity.accesses t.activity = Activity.accesses s.activity) : s.Writes t [] := by
  rw [State.Writes, Activity.writes, h, List.append_nil]
  rfl

theorem refl (s : State σ) : s.Writes s [] := of_accesses rfl

theorem trans (h : s.Writes t ws) (h' : t.Writes u vs) : s.Writes u (ws ++ vs) := by
  rw [State.Writes, h', h, List.append_assoc]

/-- What is done after a write, and writes nothing, adds no writes. -/
theorem bind {β : Type} {x : Op σ α} {f : α → Op σ β} (hx : s.Writes (x s).2 ws)
    (hf : ∀ a (t : State σ), t.Writes (f a t).2 []) : s.Writes ((x >>= f) s).2 ws := by
  rw [Op.bind_apply]
  rcases hxs : x s with ⟨fault | a, t⟩ <;> rw [hxs] at hx
  · exact hx
  · simpa using hx.trans (hf a t)

/-- What is written is determined by the two states. -/
theorem unique (h : s.Writes t ws) (h' : s.Writes t vs) : ws = vs := List.append_cancel_left (h.symm.trans h')

end State.Writes

/-- From one state to another no finding, captured bytes or reading is recorded. -/
structure State.KeepsRecords (s t : State σ) : Prop where
  findings : t.findings = s.findings
  captures : t.captures = s.captures
  readings : t.readings = s.readings

theorem State.KeepsRecords.trans {s t u : State σ} (h : s.KeepsRecords t) (h' : t.KeepsRecords u) : s.KeepsRecords u :=
  ⟨h'.findings.trans h.findings, h'.captures.trans h.captures, h'.readings.trans h.readings⟩

namespace Context
variable {c : Context σ} {d : Device σ} {s t : State σ}

theorem transfer_writes (c : Context σ) (register : UInt8) (request : Request) (step : Transfer σ α) (s : State σ) :
    s.Writes (c.transfer register request step s).2 (request.write? c.scope).toList := by
  rw [transfer_state, State.Writes, Activity.writes_append]
  refine congrArg (_ ++ ·) ?_
  show [_].filterMap _ = _
  cases h : request.write? c.scope <;> simp [h]

theorem transfer_keepsRecords (c : Context σ) (register : UInt8) (request : Request) (step : Transfer σ α)
    (s : State σ) : s.KeepsRecords (c.transfer register request step s).2 := by
  rw [transfer_state]
  exact ⟨rfl, rfl, rfl⟩

theorem fault_of_transfer {register : UInt8} {request : Request} {step : Transfer σ α} {fault : Fault}
    (h : c.transfer register request step s = (.error fault, t)) :
    ∃ e : BusError, fault = c.accessFault register e.text := by
  unfold transfer at h
  rcases hstep : step s.hardware with ⟨e | _, hardware⟩ <;> rw [hstep] at h <;> cases h
  exact ⟨e, rfl⟩

/-- Opening a bus writes nothing and records nothing but itself, whether or not it succeeds. -/
theorem of_connect {register : UInt8} {outcome : Except Fault Unit}
    (h : c.transfer register .connect d.bus.connect s = (outcome, t)) : s.Writes t [] ∧ s.KeepsRecords t := by
  have hwrites := c.transfer_writes register .connect d.bus.connect s
  have hrecords := c.transfer_keepsRecords register .connect d.bus.connect s
  rw [h] at hwrites hrecords
  exact ⟨hwrites, hrecords⟩

/-- A bus is open or has been opened, and nothing has been written or recorded for it. -/
theorem of_opened {register : UInt8} (h : t = s ∨ c.transfer register .connect d.bus.connect s = (.ok (), t)) :
    s.Writes t [] ∧ s.KeepsRecords t := by
  rcases h with rfl | hconnect
  · exact ⟨.refl t, ⟨rfl, rfl, rfl⟩⟩
  · exact of_connect hconnect

section
variable {register : UInt8} {request : Request} {step : Bus σ → Transfer σ α}

/-- An access that answers was made to a device whose bus was free. -/
theorem device_of_access {a : α} (h : c.access register request step s = (.ok a, t)) :
    ∃ d, c.device = .ok d ∧ c.scope.device ∉ c.held := by
  have hcomes := c.access_comes register request step s
  rw [h] at hcomes
  generalize hr : ((.ok a, t) : Except Fault α × State σ) = r at hcomes
  cases hcomes with
  | transfer hd hfree => exact ⟨_, hd, hfree⟩
  | _ => cases hr

theorem access_keepsRecords (c : Context σ) (register : UInt8) (request : Request) (step : Bus σ → Transfer σ α)
    (s : State σ) : s.KeepsRecords (c.access register request step s).2 := by
  have hcomes := c.access_comes register request step s
  generalize c.access register request step s = r at hcomes
  cases hcomes with
  | unplaced => exact ⟨rfl, rfl, rfl⟩
  | taken => exact ⟨rfl, rfl, rfl⟩
  | unopened _ hconnect => exact (of_connect hconnect).2
  | @transfer d u _ _ _ hopened => exact (of_opened hopened).2.trans (c.transfer_keepsRecords register request _ u)

/-- A bus that cannot be opened is asked for nothing. -/
theorem access_of_cannotOpen (hfree : c.scope.device ∉ c.held) (h : c.CannotOpen s) : ∃ e : BusError, ∃ u,
    c.access register request step s = (.error (c.accessFault register e.text), u) ∧ s.Writes u [] := by
  have hcomes := c.access_comes register request step s
  generalize c.access register request step s = r at hcomes
  cases hcomes with
  | unplaced hd =>
    obtain ⟨d, e, h, hd', -⟩ := h
    cases hd.symm.trans hd'
  | taken hheld => exact absurd hheld hfree
  | unopened _ hconnect =>
    obtain ⟨e, rfl⟩ := fault_of_transfer hconnect
    exact ⟨e, _, rfl, (of_connect hconnect).1⟩
  | transfer _ _ hopen => exact absurd h hopen

/-- An access to a bus that is open or can be opened makes one write if it asks for it, and otherwise none. -/
theorem access_writes (hd : c.device = .ok d) (hfree : c.scope.device ∉ c.held) (h : ¬c.CannotOpen s) :
    s.Writes (c.access register request step s).2 (request.write? c.scope).toList := by
  have hcomes := c.access_comes register request step s
  generalize c.access register request step s = r at hcomes
  cases hcomes with
  | unplaced hnone => cases hd.symm.trans hnone
  | taken hheld => exact absurd hheld hfree
  | unopened hclosed => exact absurd hclosed h
  | @transfer d' u _ _ _ hopened => exact (of_opened hopened).1.trans (c.transfer_writes register request _ u)

/-- An access that does not ask for a write makes none, however it ends. -/
theorem access_writes_nil (c : Context σ) (register : UInt8) (hrequest : request.write? c.scope = none)
    (step : Bus σ → Transfer σ α) (s : State σ) : s.Writes (c.access register request step s).2 [] := by
  have hcomes := c.access_comes register request step s
  generalize c.access register request step s = r at hcomes
  cases hcomes with
  | unplaced => exact .refl s
  | taken => exact .refl s
  | unopened _ hconnect => exact (of_connect hconnect).1
  | @transfer d u _ _ _ hopened =>
    have hlast := c.transfer_writes register request (step d.bus) u
    rw [hrequest] at hlast
    exact (of_opened hopened).1.trans hlast

end

theorem readBlock_writes (c : Context σ) (register : UInt8) (count : Nat) (s : State σ) :
    s.Writes (c.readBlock register count s).2 [] := c.access_writes_nil register rfl _ s

theorem readByte_writes (c : Context σ) (register : UInt8) (s : State σ) : s.Writes (c.readByte register s).2 [] :=
  c.access_writes_nil register rfl _ s

/-- If the bus cannot be opened, no write is attempted. -/
theorem writeBlock_of_cannotOpen (hfree : c.scope.device ∉ c.held) (h : c.CannotOpen s) (register : UInt8)
    (data : Bytes) : ∃ e : BusError, ∃ u,
      c.writeBlock register data s = (.error (c.accessFault register e.text), u) ∧ s.Writes u [] :=
  access_of_cannotOpen hfree h

/-- Unless the bus cannot be opened, a write is attempted once. -/
theorem writeBlock_writes (hd : c.device = .ok d) (hfree : c.scope.device ∉ c.held) (h : ¬c.CannotOpen s)
    (register : UInt8) (data : Bytes) :
    s.Writes (c.writeBlock register data s).2 [⟨c.scope, register, data⟩] := access_writes hd hfree h

end Context
end
end PowerRails
