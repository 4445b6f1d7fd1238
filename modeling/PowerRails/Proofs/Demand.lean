import PowerRails.Proofs.Growth

/-! # Demands on buses

A single action asks the bus of the active device for a few transfers, one after another; what it asks for may
depend on the answers before. The first transfer that fails, or for which the bus cannot be opened, is the end of
the action: no access follows, and the fault names the active device and rail and the register that was asked for. -/

namespace PowerRails

/-- A transfer that the bus of the active device is asked for. -/
inductive Demand where
  | block (register : UInt8) (count : Nat)
  | byte (register : UInt8)
  | store (register : UInt8) (data : Bytes)
deriving DecidableEq, Repr

namespace Demand

/-- The register that a demand is about. -/
def register : Demand → UInt8
  | .block register _ => register
  | .byte register => register
  | .store register _ => register

/-- The request that meets a demand. -/
def request : Demand → Request
  | .block register count => .read register count
  | .byte register => .readByte register
  | .store register data => .write register data

end Demand

/-- Whether a fault comes from a bus. -/
def Cause.isAccess : Cause → Bool
  | .busAccess .. => true
  | _ => false

/-- Whether a fault comes from nested rules. -/
def Cause.isRecursion : Cause → Bool
  | .ruleRecursion .. => true
  | _ => false

/-- A fault that comes neither from a bus nor from nested rules, and has passed nothing yet. -/
structure Fault.Simple (f : Fault) : Prop where
  frames : f.frames = []
  access : f.cause.isAccess = false
  recursion : f.cause.isRecursion = false

section
variable {σ α β : Type}

/-- Accesses may have been made from one state to another, and none of them failed. -/
def State.Fine (s t : State σ) : Prop :=
  ∃ made, Activity.accesses t.activity = Activity.accesses s.activity ++ made ∧ ∀ a ∈ made, a.failure = none

namespace State.Fine
variable {s t u : State σ}

theorem of_eq (h : Activity.accesses t.activity = Activity.accesses s.activity) : s.Fine t :=
  ⟨[], by rw [h, List.append_nil], nofun⟩

theorem refl (s : State σ) : s.Fine s := .of_eq rfl

theorem trans (h : s.Fine t) (h' : t.Fine u) : s.Fine u := by
  obtain ⟨made, hmade, hfine⟩ := h
  obtain ⟨made', hmade', hfine'⟩ := h'
  refine ⟨made ++ made', by rw [hmade', hmade, List.append_assoc], fun a ha => ?_⟩
  rcases List.mem_append.mp ha with ha | ha
  · exact hfine a ha
  · exact hfine' a ha

end State.Fine

namespace Context

/-- Has a demand met, and passes over the answer. -/
def meet (c : Context σ) : Demand → Op σ Unit
  | .block register count => do let _ ← c.readBlock register count
  | .byte register => do let _ ← c.readByte register
  | .store register data => c.writeBlock register data

/-- The last access from one state to another fails for some demand, and those before it do not fail. -/
def FailsLast (c : Context σ) (w : Demand) (s : State σ) (e : BusError) (t : State σ) : Prop :=
  ∃ made a, Activity.accesses t.activity = Activity.accesses s.activity ++ made ++ [a] ∧
    (∀ b ∈ made, b.failure = none) ∧ a.failure = some e ∧ a.scope = c.scope ∧
    (a.request = .connect ∨ a.request = w.request)

/-- A demand fails: with the fault that names it, at its last access. -/
structure FailsAt (c : Context σ) (w : Demand) (s : State σ) (e : BusError) (t : State σ) : Prop where
  outcome : c.meet w s = (.error (c.accessFault w.register e.text), t)
  last : c.FailsLast w s e t

/-- How a single action, or a part of it, ends if it may make some demands. -/
inductive Stops (c : Context σ) (may : Demand → State σ → Prop) (s : State σ) : Except Fault α × State σ → Prop
  | answer {a t} : s.Fine t → Stops c may s (.ok a, t)
  | refusal {fault t} : s.Fine t → fault.Simple → Stops c may s (.error fault, t)
  | taken {register t} : s.Fine t → c.scope.device ∈ c.held →
      Stops c may s (.error (c.accessFault register "bus interface is already in use"), t)
  | failure {w u e t} : s.Fine u → may w u → c.FailsAt w u e t →
      Stops c may s (.error (c.accessFault w.register e.text), t)

variable {c : Context σ} {may : Demand → State σ → Prop} {s t u : State σ}

theorem FailsLast.after {w : Demand} {e : BusError} (hfine : s.Fine t) (h : c.FailsLast w t e u) :
    c.FailsLast w s e u := by
  obtain ⟨made, hmade, hmadeFine⟩ := hfine
  obtain ⟨more, a, hmore, hmoreFine, ha⟩ := h
  refine ⟨made ++ more, a, by rw [hmore, hmade, ← List.append_assoc], fun b hb => ?_, ha⟩
  rcases List.mem_append.mp hb with hb | hb
  · exact hmadeFine b hb
  · exact hmoreFine b hb

namespace Stops

theorem after {r : Except Fault α × State σ} (hfine : s.Fine t) (h : c.Stops may t r) : c.Stops may s r := by
  cases h with
  | answer hfine' => exact .answer (hfine.trans hfine')
  | refusal hfine' hsimple => exact .refusal (hfine.trans hfine') hsimple
  | taken hfine' hheld => exact .taken (hfine.trans hfine') hheld
  | failure hfine' hw hfails => exact .failure (hfine.trans hfine') hw hfails

theorem fine {a : α} (h : c.Stops may s ((.ok a, t) : Except Fault α × State σ)) : s.Fine t := by
  cases h with
  | answer hfine => exact hfine

theorem bind {x : Op σ α} {f : α → Op σ β} (hx : c.Stops may s (x s))
    (hf : ∀ a t, x s = (.ok a, t) → c.Stops may t (f a t)) : c.Stops may s ((x >>= f) s) := by
  rw [Op.bind_apply]
  rcases hxs : x s with ⟨fault | a, t⟩ <;> rw [hxs] at hx
  · cases hx with
    | refusal hfine hsimple => exact .refusal hfine hsimple
    | taken hfine hheld => exact .taken hfine hheld
    | failure hfine hw hfails => exact .failure hfine hw hfails
  · exact after hx.fine (hf a t hxs)

theorem frames_eq_nil {fault : Fault} (h : c.Stops may s ((.error fault, t) : Except Fault α × State σ)) :
    fault.frames = [] := by
  cases h with
  | refusal _ hsimple => exact hsimple.frames
  | taken => rfl
  | failure => rfl

theorem not_recursion {fault : Fault} (h : c.Stops may s ((.error fault, t) : Except Fault α × State σ)) :
    fault.cause.isRecursion = false := by
  cases h with
  | refusal _ hsimple => exact hsimple.recursion
  | taken => rfl
  | failure => rfl

/-- What makes no access and raises no fault. -/
theorem quiet {x : Op σ α} {a : α} (hx : x s = (.ok a, t))
    (h : Activity.accesses t.activity = Activity.accesses s.activity) : c.Stops may s (x s) := by
  rw [hx]
  exact .answer (.of_eq h)

theorem pure (a : α) (s : State σ) : c.Stops may s ((Pure.pure a : Op σ α) s) := quiet rfl rfl

theorem fail {fault : Fault} (h : fault.Simple) (s : State σ) : c.Stops may s ((Op.fail fault : Op σ α) s) :=
  .refusal (.refl s) h

theorem ofExcept {r : Except Fault α} (h : ∀ fault, r = .error fault → fault.Simple) (s : State σ) :
    c.Stops may s (Op.ofExcept r s) := by
  cases r with
  | error fault => exact fail (h fault rfl) s
  | ok a => exact pure a s

theorem then_pure {x : Op σ α} {f : α → β} (hx : c.Stops may s (x s)) :
    c.Stops may s ((x >>= fun a => Pure.pure (f a)) s) := hx.bind fun a t _ => pure (f a) t

end Stops

/-! ### Refusals -/

theorem simple_of_device {fault : Fault} (h : c.device = .error fault) : fault.Simple := by
  unfold device Plant.device at h
  split at h <;> cases h
  exact ⟨rfl, rfl, rfl⟩

theorem simple_of_requireRail {d : Device σ} {rail : String} {fault : Fault} (h : requireRail d rail = .error fault) :
    fault.Simple := by
  unfold requireRail at h
  split at h <;> cases h
  exact ⟨rfl, rfl, rfl⟩

theorem simple_of_requireActiveRail {rail : String} {fault : Fault} (h : c.requireActiveRail rail = .error fault) :
    fault.Simple := by
  unfold requireActiveRail at h
  cases hd : c.device with
  | error fault' =>
    rw [hd] at h
    cases h
    exact simple_of_device hd
  | ok d =>
    rw [hd] at h
    exact simple_of_requireRail h

theorem simple_of_requireScope {device : String} {rail : Option String} {fault : Fault}
    (h : c.requireScope device rail = .error fault) : fault.Simple := by
  cases rail with
  | none =>
    unfold requireScope Plant.device at h
    cases hd : c.plant.device? device <;> rw [hd] at h <;> cases h
    exact ⟨rfl, rfl, rfl⟩
  | some rail => exact simple_of_requireActiveRail (c := c.enter ⟨device, some rail⟩) h

/-! ### Accesses -/

/-- One step of the hardware on behalf of a demand. -/
theorem transfer_ends (c : Context σ) {w : Demand} {request : Request} (hw : request = .connect ∨ request = w.request)
    (step : Transfer σ α) (s : State σ) :
    (∃ a t, c.transfer w.register request step s = (.ok a, t) ∧ s.Fine t) ∨
      ∃ e t, c.transfer w.register request step s = (.error (c.accessFault w.register e.text), t) ∧
        c.FailsLast w s e t := by
  unfold transfer
  rcases step s.hardware with ⟨e | answer, hardware⟩
  · let a : Access := ⟨c.scope, s.presence.get? c.scope.device c.cycle, c.detecting, request, some e⟩
    have hlast : Activity.accesses (s.activity ++ [.access a]) = Activity.accesses s.activity ++ [] ++ [a] := by
      rw [List.append_nil]
      exact Activity.accesses_append _ _
    exact Or.inr ⟨e, _, rfl, [], a, hlast, nofun, rfl, rfl, hw⟩
  · refine Or.inl ⟨answer, _, rfl, _, Activity.accesses_append _ _, fun a ha => ?_⟩
    rw [List.mem_singleton.mp ha]

/-- The bus of the active device is closed and opening it fails. -/
def CannotOpen (c : Context σ) (s : State σ) : Prop :=
  ∃ d e h, c.device = .ok d ∧ d.bus.isOpen s.hardware = false ∧ d.bus.connect s.hardware = (.error e, h)

/-- What an access to the bus of the active device comes to. It is refused if there is no such device or its bus is
taken; it fails if the bus cannot be opened; and otherwise it makes its transfer, at once or after opening the bus. -/
inductive Comes (c : Context σ) (register : UInt8) (request : Request) (step : Bus σ → Transfer σ α) (s : State σ) :
    Except Fault α × State σ → Prop
  | unplaced {fault} : c.device = .error fault → Comes c register request step s (.error fault, s)
  | taken : c.scope.device ∈ c.held →
      Comes c register request step s (.error (c.accessFault register "bus interface is already in use"), s)
  | unopened {d : Device σ} {fault u} : c.CannotOpen s →
      c.transfer register .connect d.bus.connect s = (.error fault, u) →
      Comes c register request step s (.error fault, u)
  | transfer {d u} : c.device = .ok d → c.scope.device ∉ c.held → ¬c.CannotOpen s →
      (u = s ∨ c.transfer register .connect d.bus.connect s = (.ok (), u)) →
      Comes c register request step s (c.transfer register request (step d.bus) u)

theorem access_comes (c : Context σ) (register : UInt8) (request : Request) (step : Bus σ → Transfer σ α)
    (s : State σ) : c.Comes register request step s (c.access register request step s) := by
  cases hd : c.device with
  | error fault =>
    rw [access_of_error hd]
    exact .unplaced hd
  | ok d =>
    have hid : d.id = c.scope.device := (Plant.device?_eq_some (Plant.device_eq_ok_iff.mp hd)).2
    rw [access_of_device hd, hid]
    split
    · exact .taken ‹_›
    · rename_i hfree
      cases hopen : d.bus.isOpen s.hardware with
      | true =>
        rw [if_pos rfl]
        refine .transfer hd hfree ?_ (.inl rfl)
        rintro ⟨d', e, h, hd', hclosed, -⟩
        cases hd.symm.trans hd'
        cases hopen.symm.trans hclosed
      | false =>
        rw [if_neg Bool.false_ne_true]
        rcases hstep : d.bus.connect s.hardware with ⟨e | _, h⟩
        · have hfails : ∃ u, c.transfer register .connect d.bus.connect s =
              (.error (c.accessFault register e.text), u) :=
            ⟨_, by unfold Context.transfer; rw [hstep]⟩
          obtain ⟨u, hu⟩ := hfails
          rw [Op.bind_of_error hu]
          exact .unopened ⟨d, e, h, hd, hopen, hstep⟩ hu
        · have hopens : ∃ u, c.transfer register .connect d.bus.connect s = (.ok (), u) :=
            ⟨_, by unfold Context.transfer; rw [hstep]⟩
          obtain ⟨u, hu⟩ := hopens
          rw [Op.bind_of_ok hu]
          refine .transfer hd hfree ?_ (.inr hu)
          rintro ⟨d', e, h', hd', -, hfails⟩
          cases hd.symm.trans hd'
          cases hstep.symm.trans hfails

theorem access_ends (c : Context σ) (w : Demand) (step : Bus σ → Transfer σ α) (s : State σ) :
    (∃ a t, c.access w.register w.request step s = (.ok a, t) ∧ s.Fine t) ∨
      (∃ fault, c.access w.register w.request step s = (.error fault, s) ∧ fault.Simple) ∨
      (c.access w.register w.request step s = (.error (c.accessFault w.register "bus interface is already in use"), s) ∧
        c.scope.device ∈ c.held) ∨
      ∃ e t, c.access w.register w.request step s = (.error (c.accessFault w.register e.text), t) ∧
        c.FailsLast w s e t := by
  have hcomes := c.access_comes w.register w.request step s
  generalize c.access w.register w.request step s = r at hcomes ⊢
  cases hcomes with
  | unplaced hd => exact Or.inr (Or.inl ⟨_, rfl, simple_of_device hd⟩)
  | taken hheld => exact Or.inr (Or.inr (Or.inl ⟨rfl, hheld⟩))
  | @unopened d _ _ _ hconnect =>
    rcases c.transfer_ends (Or.inl rfl) d.bus.connect s with ⟨_, _, h, -⟩ | ⟨e, t, h, hlast⟩ <;>
      cases hconnect.symm.trans h
    exact Or.inr (Or.inr (Or.inr ⟨e, _, rfl, hlast⟩))
  | @transfer d u _ _ _ hopened =>
    have hfine : s.Fine u := by
      rcases hopened with rfl | hconnect
      · exact .refl u
      · rcases c.transfer_ends (w := w) (Or.inl rfl) d.bus.connect s with ⟨_, _, h, hfine⟩ | ⟨_, _, h, -⟩ <;>
          cases hconnect.symm.trans h
        exact hfine
    rcases c.transfer_ends (Or.inr rfl) (step d.bus) u with ⟨a, t, h, hmore⟩ | ⟨e, t, h, hlast⟩
    · exact Or.inl ⟨a, t, h, hfine.trans hmore⟩
    · exact Or.inr (Or.inr (Or.inr ⟨e, t, h, hlast.after hfine⟩))

/-- An access that a demand asks for may come to a stop. -/
theorem access_stops {w : Demand} (hw : may w s) (step : Bus σ → Transfer σ α)
    (hmeet : ∀ fault t, c.access w.register w.request step s = (.error fault, t) → c.meet w s = (.error fault, t)) :
    c.Stops may s (c.access w.register w.request step s) := by
  rcases c.access_ends w step s with ⟨a, t, h, hfine⟩ | ⟨fault, h, hsimple⟩ | ⟨h, hheld⟩ | ⟨e, t, h, hlast⟩
  · rw [h]
    exact .answer hfine
  · rw [h]
    exact .refusal (.refl s) hsimple
  · rw [h]
    exact .taken (.refl s) hheld
  · have hfails : c.FailsAt w s e t := ⟨hmeet _ t h, hlast⟩
    rw [h]
    exact .failure (.refl s) hw hfails

theorem readBlock_stops {register : UInt8} {count : Nat} (hw : may (.block register count) s) :
    c.Stops may s (c.readBlock register count s) := access_stops hw _ fun _ _ h => Op.bind_of_error h

theorem readByte_stops {register : UInt8} (hw : may (.byte register) s) : c.Stops may s (c.readByte register s) :=
  access_stops hw _ fun _ _ h => Op.bind_of_error h

theorem writeBlock_stops {register : UInt8} {data : Bytes} (hw : may (.store register data) s) :
    c.Stops may s (c.writeBlock register data s) := access_stops hw _ fun _ _ h => h

/-! ### Single actions -/

/-- The demands of a single action, each with the state that it finds. -/
inductive Demands (c : Context σ) : Action → State σ → Demand → State σ → Prop
  | comparison {r s} : Demands c (.compareRegister r) s (.block r.register r.format.byteLength) s
  | merging {w mask s} : w.mask = some mask → Demands c (.writeRegister w) s (.block w.register w.data.length) s
  | writing {w s t bytes} : c.bytesToWrite w s = (.ok bytes, t) →
      Demands c (.writeRegister w) s (.store w.register bytes) t
  | capture {b s} : Demands c (.capture b) s (.block b.register b.count) s
  | reading {r s} : Demands c (.readSensor r) s (.block r.register r.format.byteLength) s
  | logging {l b s} : l.capture = some b → Demands c (.logFinding l) s (.block b.register b.count) s
  | mode {v s} : v.exponent = none → (v.volts.or c.volts).isSome →
      Demands c (.setVout v) s (.byte Linear16.modeRegister) s
  | command {v s t volts exponent word} : v.volts.or c.volts = some volts → c.voutExponent v s = (.ok exponent, t) →
      Linear16.encode volts exponent = .ok word →
      Demands c (.setVout v) s (.store Linear16.commandRegister (Linear16.wordBytes word)) t
  | verification {v s t u volts exponent word answer} : v.volts.or c.volts = some volts →
      c.voutExponent v s = (.ok exponent, t) → Linear16.encode volts exponent = .ok word → v.verify = true →
      c.writeBlock Linear16.commandRegister (Linear16.wordBytes word) t = (.ok answer, u) →
      Demands c (.setVout v) s (.block Linear16.commandRegister (Linear16.wordBytes word).length) u

theorem simple_of_exponentOfMode {mode : UInt8} {fault : Fault} (h : Linear16.exponentOfMode mode = .error fault) :
    fault.Simple := by
  simp only [Linear16.exponentOfMode] at h
  split at h <;> cases h
  exact ⟨rfl, rfl, rfl⟩

theorem simple_of_encode {volts : Binary64} {exponent : Int} {fault : Fault}
    (h : Linear16.encode volts exponent = .error fault) : fault.Simple := by
  unfold Linear16.encode at h
  split at h <;> cases h
  exact ⟨rfl, rfl, rfl⟩

theorem operandValue_stops (operand : Operand) (s : State σ) : c.Stops may s (operandValue operand s) := by
  cases operand with
  | literal value => exact .pure value s
  | sensor name =>
    refine .bind (.quiet rfl rfl) fun before t _ => ?_
    cases Reading.latest? before.readings name with
    | some value => exact .pure value t
    | none => exact .fail ⟨rfl, rfl, rfl⟩ t

theorem voutExponent_stops {v : VoutCommand} (hw : v.exponent = none → may (.byte Linear16.modeRegister) s) :
    c.Stops may s (c.voutExponent v s) := by
  unfold voutExponent
  cases hexponent : v.exponent with
  | some exponent => exact .pure exponent s
  | none => exact .bind (readByte_stops (hw hexponent)) fun mode t _ => .ofExcept (fun _ => simple_of_exponentOfMode) t

theorem setVout_stops (v : VoutCommand) (s : State σ) : c.Stops (c.Demands (.setVout v) s) s (c.setVout v s) := by
  unfold setVout
  cases hvolts : v.volts.or c.volts with
  | none => exact .fail ⟨rfl, rfl, rfl⟩ s
  | some volts =>
    refine .bind (voutExponent_stops fun h => .mode h (by rw [hvolts]; rfl)) fun exponent t hexponent => ?_
    refine .bind (.ofExcept (fun _ => simple_of_encode) t) fun word u hword => ?_
    obtain ⟨hencode, rfl⟩ := Prod.mk.inj hword
    refine .bind (writeBlock_stops (.command hvolts hexponent hencode)) fun answer u hwrite => ?_
    cases hverify : v.verify with
    | false => exact .pure true u
    | true =>
      refine .bind (readBlock_stops (.verification hvolts hexponent hencode hverify hwrite)) fun actual w _ => ?_
      unfold confirmWrite
      split
      · exact .pure true w
      · exact .fail ⟨rfl, rfl, rfl⟩ w

/-- A single action stops where a demand of it fails. -/
theorem stops_single {a : Action} {x : Op σ Bool} (h : c.single? a = some x) (s : State σ) :
    c.Stops (c.Demands a s) s (x s) := by
  cases a with
  | compareRegister r =>
    cases h
    exact .bind (readBlock_stops .comparison) fun _ t _ => .then_pure (operandValue_stops r.operand t)
  | writeRegister w =>
    cases h
    refine .bind ?_ fun bytes t hbytes => .then_pure (writeBlock_stops (.writing hbytes))
    unfold bytesToWrite
    cases hmask : w.mask with
    | none => exact .pure w.data s
    | some mask => exact .then_pure (readBlock_stops (.merging hmask))
  | capture b =>
    cases h
    refine .bind (readBlock_stops .capture) fun bytes t _ => .then_pure (.quiet (capture_apply b.register bytes) ?_)
    exact (Activity.accesses_append _ _).trans (List.append_nil _)
  | readSensor r =>
    cases h
    refine .bind (readBlock_stops .reading) fun bytes t _ => .then_pure (.quiet (recordReading_apply _ _ _) ?_)
    rw [Activity.accesses_append, accesses_told, List.append_nil]
  | logFinding l =>
    cases h
    refine .bind ?_ fun _ t _ => .then_pure (.quiet rfl rfl)
    unfold bytesToLog
    cases hcapture : l.capture with
    | none => exact .pure none s
    | some b => exact .then_pure (readBlock_stops (.logging hcapture))
  | setVout v =>
    cases h
    exact setVout_stops v s
  | _ => cases h

end Context
end
end PowerRails
