import PowerRails.Proofs.Combinators
import PowerRails.Proofs.Registers
import PowerRails.Proofs.Restoration
import PowerRails.Proofs.VoutProgramming

/-! # Actions that fail

A single action makes its transfers before it records anything, and writes after all that can refuse it. So where
opening a bus, reading and failing to write leave the registers alone, an action that fails has touched nothing
(`Environment.Untouched`): no register, no record, no presence result and nothing of the environment. The only
exception is a command that is verified, whose write has been made when reading it back fails or gives something else
(`Context.FailsReadBack`). A procedure in which such an action is the first to fail has done what stands before it, and
no more. -/

namespace PowerRails

section
variable {σ α β ρ : Type}

/-- Opening a bus, reading from it and failing to write to it leave the registers as they are. -/
structure Bus.Spares (b : Bus σ) (registers : σ → ρ) : Prop where
  connect : ∀ h, registers (b.connect h).2 = registers h
  read : ∀ register count h, registers (b.read register count h).2 = registers h
  failedWrite : ∀ {register data h e h'}, b.write register data h = (.error e, h') → registers h' = registers h

theorem Bus.Spares.readByte {b : Bus σ} {registers : σ → ρ} (hb : b.Spares registers) (register : UInt8) (h : σ) :
    registers (b.readByte register h).2 = registers h := by
  have hread := hb.read register 1 h
  unfold Bus.readByte
  rcases hanswer : b.read register 1 h with ⟨e | _ | ⟨first, rest⟩, h'⟩ <;> rw [hanswer] at hread <;> exact hread

theorem RegisterFile.spares_bus (endpoint : Endpoint) : (RegisterFile.bus endpoint).Spares RegisterFile.registers where
  connect _ := rfl
  read register count f := by
    simp only [bus]
    split <;> rfl
  failedWrite {register data f e f'} h := by
    simp only [bus] at h
    split at h <;> cases h
    rfl

/-- From one state to another accesses may have been noted, and otherwise there is no difference but in hardware whose
registers hold what they held. -/
structure State.Untouched (registers : σ → ρ) (s t : State σ) : Prop where
  registers : registers t.hardware = registers s.hardware
  presence : t.presence = s.presence
  records : s.KeepsRecords t
  activity : ∃ made : List Access, t.activity = s.activity ++ made.map .access

namespace State.Untouched
variable {registers : σ → ρ} {s t u : State σ}

theorem refl (s : State σ) : s.Untouched registers s := ⟨rfl, rfl, ⟨rfl, rfl, rfl⟩, [], (List.append_nil _).symm⟩

theorem trans (h : s.Untouched registers t) (h' : t.Untouched registers u) : s.Untouched registers u where
  registers := h'.registers.trans h.registers
  presence := h'.presence.trans h.presence
  records := h.records.trans h'.records
  activity := by
    obtain ⟨made, hmade⟩ := h.activity
    obtain ⟨more, hmore⟩ := h'.activity
    exact ⟨made ++ more, by rw [hmore, hmade, List.map_append, List.append_assoc]⟩

end State.Untouched

namespace Op

/-- Something touches nothing, whether it answers or fails. -/
def Spares (registers : σ → ρ) (x : Op σ α) (s : State σ) : Prop := s.Untouched registers (x s).2

/-- If something fails it has touched nothing. -/
def FailsClean (registers : σ → ρ) (x : Op σ α) (s : State σ) : Prop :=
  ∀ fault t, x s = (.error fault, t) → s.Untouched registers t

variable {registers : σ → ρ} {x : Op σ α} {f : α → Op σ β} {s : State σ}

theorem Spares.failsClean (h : x.Spares registers s) : x.FailsClean registers s := fun fault t hfails => by
  unfold Spares at h
  rwa [hfails] at h

theorem Spares.of_state (h : (x s).2 = s) : x.Spares registers s := by
  unfold Spares
  rw [h]
  exact .refl s

theorem Spares.bind (hx : x.Spares registers s) (hf : ∀ a t, x s = (.ok a, t) → (f a).Spares registers t) :
    (x >>= f).Spares registers s := by
  unfold Spares at hx ⊢
  rw [bind_apply]
  rcases hxs : x s with ⟨fault | a, t⟩ <;> rw [hxs] at hx
  · exact hx
  · exact hx.trans (hf a t hxs)

theorem Spares.bind_failsClean (hx : x.Spares registers s)
    (hf : ∀ a t, x s = (.ok a, t) → (f a).FailsClean registers t) : (x >>= f).FailsClean registers s := by
  intro fault u h
  obtain hfails | ⟨a, t, hok, hfails⟩ := bind_eq_error h
  · exact hx.failsClean fault u hfails
  · unfold Spares at hx
    rw [hok] at hx
    exact hx.trans (hf a t hok fault u hfails)

/-- What never fails adds no failures. -/
theorem FailsClean.bind_of_ok (hx : x.FailsClean registers s) (hf : ∀ a t, ∃ b u, f a t = (.ok b, u)) :
    (x >>= f).FailsClean registers s := by
  intro fault u h
  obtain hfails | ⟨a, t, -, hfails⟩ := bind_eq_error h
  · exact hx fault u hfails
  · obtain ⟨b, u', hok⟩ := hf a t
    cases hok.symm.trans hfails

end Op

namespace Context
variable {c : Context σ} {registers : σ → ρ} {s t : State σ}

/-! ### Accesses -/

theorem transfer_spares {register : UInt8} {request : Request} {step : Transfer σ α}
    (hstep : registers (step s.hardware).2 = registers s.hardware) :
    (c.transfer register request step).Spares registers s := by
  unfold Op.Spares
  rw [transfer_state]
  exact ⟨hstep, rfl, ⟨rfl, rfl, rfl⟩, [_], rfl⟩

theorem transfer_failsClean {register : UInt8} {request : Request} {step : Transfer σ α}
    (hstep : ∀ e h, step s.hardware = (.error e, h) → registers h = registers s.hardware) :
    (c.transfer register request step).FailsClean registers s := by
  intro fault t h
  rcases hs : step s.hardware with ⟨e | a, hardware⟩
  · refine (transfer_spares ?_).failsClean fault t h
    rw [hs]
    exact hstep e hardware hs
  · rw [c.transfer_of_ok register request hs] at h
    cases h

theorem openBus_spares (hbus : ∀ d, c.device = .ok d → d.bus.Spares registers) (register : UInt8) (s : State σ) :
    (c.openBus register).Spares registers s := by
  refine .bind (.of_state rfl) fun d u hu => ?_
  obtain ⟨hd, rfl⟩ := Prod.mk.inj hu
  split
  · exact .of_state rfl
  · refine .bind (.of_state rfl) fun before u _ => ?_
    split
    · exact .of_state rfl
    · exact .bind (transfer_spares ((hbus d hd).connect _)) fun _ _ _ => .of_state rfl

section
variable {register : UInt8} {request : Request} {step : Bus σ → Transfer σ α}

theorem access_spares (hbus : ∀ d, c.device = .ok d → d.bus.Spares registers)
    (hstep : ∀ d h, c.device = .ok d → registers (step d.bus h).2 = registers h) (s : State σ) :
    (c.access register request step).Spares registers s := by
  refine .bind (openBus_spares hbus register s) fun b t hb => ?_
  obtain ⟨d, hd, rfl⟩ := Regime.StepLaw.openBus_eq_ok hb
  exact transfer_spares (hstep d _ hd)

theorem access_failsClean (hbus : ∀ d, c.device = .ok d → d.bus.Spares registers)
    (hstep : ∀ d h e h', c.device = .ok d → step d.bus h = (.error e, h') → registers h' = registers h) (s : State σ) :
    (c.access register request step).FailsClean registers s := by
  refine (openBus_spares hbus register s).bind_failsClean fun b t hb => ?_
  obtain ⟨d, hd, rfl⟩ := Regime.StepLaw.openBus_eq_ok hb
  exact transfer_failsClean fun e h => hstep d _ e h hd

end

variable (hbus : ∀ d, c.device = .ok d → d.bus.Spares registers)
include hbus

theorem readBlock_spares (register : UInt8) (count : Nat) (s : State σ) :
    (c.readBlock register count).Spares registers s :=
  access_spares hbus (fun d h hd => (hbus d hd).read register count h) s

theorem readByte_spares (register : UInt8) (s : State σ) : (c.readByte register).Spares registers s :=
  access_spares hbus (fun d h hd => (hbus d hd).readByte register h) s

theorem writeBlock_failsClean (register : UInt8) (data : Bytes) (s : State σ) :
    (c.writeBlock register data).FailsClean registers s :=
  access_failsClean hbus (fun d _ _ _ hd => (hbus d hd).failedWrite) s

/-! ### Single actions -/

theorem compareRegister_failsClean (r : RegisterComparison) (s : State σ) :
    (c.compareRegister r).FailsClean registers s := by
  refine (readBlock_spares hbus _ _ s).bind_failsClean fun bytes t _ => ?_
  refine Op.FailsClean.bind_of_ok (Op.Spares.of_state ?_).failsClean fun _ _ => ⟨_, _, rfl⟩
  cases r.operand with
  | literal value => rfl
  | sensor name =>
    rw [operandValue, Op.bind_of_ok (Op.state_apply t)]
    cases Reading.latest? t.readings name <;> rfl

theorem writeRegister_failsClean (w : RegisterWrite) (s : State σ) : (c.writeRegister w).FailsClean registers s := by
  have hbytes : (c.bytesToWrite w).Spares registers s := by
    unfold bytesToWrite
    cases w.mask with
    | none => exact .of_state rfl
    | some mask => exact (readBlock_spares hbus _ _ s).bind fun _ _ _ => .of_state rfl
  exact hbytes.bind_failsClean fun data t _ =>
    (writeBlock_failsClean hbus w.register data t).bind_of_ok fun _ _ => ⟨_, _, rfl⟩

theorem captureBlock_failsClean (b : BlockRead) (s : State σ) : (c.captureBlock b).FailsClean registers s :=
  (readBlock_spares hbus _ _ s).failsClean.bind_of_ok fun _ _ => ⟨_, _, rfl⟩

theorem readSensor_failsClean (r : SensorRead) (s : State σ) : (c.readSensor r).FailsClean registers s := by
  refine (readBlock_spares hbus _ _ s).failsClean.bind_of_ok fun bytes t => ?_
  exact ⟨true, _, Op.bind_of_ok (recordReading_apply r.name r.kind _)⟩

theorem logFinding_failsClean (l : FindingLog) (s : State σ) : (c.logFinding l).FailsClean registers s := by
  refine Op.FailsClean.bind_of_ok ?_ fun _ _ => ⟨_, _, rfl⟩
  unfold bytesToLog
  cases l.capture with
  | none => exact (Op.Spares.of_state rfl).failsClean
  | some b => exact (readBlock_spares hbus _ _ s).failsClean.bind_of_ok fun _ _ => ⟨_, _, rfl⟩

theorem voutExponent_spares (v : VoutCommand) (s : State σ) : (c.voutExponent v).Spares registers s := by
  unfold voutExponent
  cases v.exponent with
  | some exponent => exact .of_state rfl
  | none => exact (readByte_spares hbus _ s).bind fun _ _ _ => .of_state rfl

omit hbus in
/-- A command that is verified has written, and then its register cannot be read or holds something else. -/
inductive FailsReadBack (c : Context σ) (s : State σ) : Action → Prop
  | unread {v data t u fault w} : c.Encodes v s data t → v.verify = true →
      c.writeBlock Linear16.commandRegister data t = (.ok (), u) →
      c.readBlock Linear16.commandRegister data.length u = (.error fault, w) → FailsReadBack c s (.setVout v)
  | mismatched {v data t u actual w} : c.Encodes v s data t → v.verify = true →
      c.writeBlock Linear16.commandRegister data t = (.ok (), u) →
      c.readBlock Linear16.commandRegister data.length u = (.ok actual, w) → actual ≠ data →
      FailsReadBack c s (.setVout v)

/-- The write has been made when what is read back is looked at, so only the exception is left. -/
theorem send_failsClean {v : VoutCommand} {data : Bytes} (hencodes : c.Encodes v s data t)
    (hread : ¬c.FailsReadBack s (.setVout v)) : (c.send v data).FailsClean registers t := by
  intro fault u hfails
  obtain hwrite | ⟨_, w, hwrite, hfails⟩ := Op.bind_eq_error hfails
  · exact writeBlock_failsClean hbus _ _ t fault u hwrite
  · cases hverify : v.verify with
    | false =>
      simp only [hverify] at hfails
      cases hfails
    | true =>
      rw [hverify, if_pos rfl] at hfails
      obtain hunread | ⟨actual, w', hback, hother⟩ := Op.bind_eq_error hfails
      · exact absurd (.unread hencodes hverify hwrite hunread) hread
      · refine absurd (.mismatched hencodes hverify hwrite hback fun hsame => ?_) hread
        rw [confirmWrite, if_pos hsame] at hother
        cases hother

theorem setVout_failsClean {v : VoutCommand} (hread : ¬c.FailsReadBack s (.setVout v)) :
    (c.setVout v).FailsClean registers s := by
  cases hvolts : v.volts.or c.volts with
  | none =>
    unfold setVout
    rw [hvolts]
    exact (Op.Spares.of_state rfl).failsClean
  | some volts =>
    rw [setVout_of_volts hvolts]
    refine (voutExponent_spares hbus v s).bind_failsClean fun exponent t hexponent => ?_
    refine (Op.Spares.of_state rfl).bind_failsClean fun word u hword => ?_
    obtain ⟨hencode, rfl⟩ := Prod.mk.inj hword
    obtain ⟨e, t', hok, hsettled, -⟩ | ⟨fault, t', hfails, -⟩ := c.voutExponent_cases v s
    · cases hexponent.symm.trans hok
      obtain ⟨hlength, hvalue⟩ := Linear16.littleEndian_wordBytes word
      exact send_failsClean hbus (.word hvolts hsettled hencode hlength hvalue) hread
    · cases hexponent.symm.trans hfails

omit hbus in
/-- Asking for presence fails only where nothing is asked of a device. -/
theorem resolvePresence_failsClean (c : Context σ) (id : String) (s : State σ) :
    (c.resolvePresence id).FailsClean registers s := by
  intro fault t h
  have hresolves := c.resolves id s
  rw [h] at hresolves
  generalize hr : ((.error fault, t) : Except Fault Bool × State σ) = r at hresolves
  cases hresolves with
  | cached => cases hr
  | unknown | cyclic =>
    cases hr
    exact .refl s
  | assumed => cases hr
  -- A detection that fails says that the device is absent, so even then there is an answer.
  | @detected _ _ r => obtain ⟨_ | _, _⟩ := r <;> cases hr

end Context

/-- An action that carries out no others. -/
def Action.isLeaf : Action → Bool
  | .comparePresence .. | .compareRegister _ | .writeRegister _ | .capture _ | .readSensor _ | .logFinding _
  | .setVout _ => true
  | _ => false

namespace Context
variable {c : Context σ} {registers : σ → ρ} {s t : State σ}

theorem perform_failsClean {a : Action} (hleaf : a.isLeaf = true)
    (hbus : ∀ d, c.device = .ok d → d.bus.Spares registers) (hread : ¬c.FailsReadBack s a) :
    (c.perform a).FailsClean registers s := by
  have framed {frame : Frame} {x : Op σ Bool} (hx : x.FailsClean registers s) :
      (Op.framed frame x).FailsClean registers s := fun fault t h => by
    obtain ⟨inner, hinner, -⟩ := Op.framed_eq_error h
    exact hx inner t hinner
  cases a with
  | comparePresence device expected =>
    rw [perform]
    exact framed ((c.resolvePresence_failsClean device s).bind_of_ok fun _ _ => ⟨_, _, rfl⟩)
  | compareRegister r =>
    rw [perform]
    exact framed (compareRegister_failsClean hbus r s)
  | writeRegister w =>
    rw [perform]
    exact framed (writeRegister_failsClean hbus w s)
  | capture b =>
    rw [perform]
    exact framed (captureBlock_failsClean hbus b s)
  | readSensor r =>
    rw [perform]
    exact framed (readSensor_failsClean hbus r s)
  | logFinding l =>
    rw [perform]
    exact framed (logFinding_failsClean hbus l s)
  | setVout v =>
    rw [perform]
    exact framed (setVout_failsClean hbus hread)
  | _ => cases hleaf

/-! ### Procedures -/

/-- A procedure whose actions are those of two is carried out as one after the other. -/
theorem inOrder_append (c : Context σ) (as bs : Procedure) :
    c.inOrder ⟨as.first, as.rest ++ bs.toList⟩ = c.inOrder as >>= fun _ => c.inOrder bs := by
  obtain ⟨a, as⟩ := as
  -- A procedure is not empty, so the induction is on what stands after its first action, whichever that is.
  induction as generalizing a with
  | nil =>
    rw [List.nil_append, c.inOrder_cons, inOrder]
  | cons b as ih =>
    rw [List.cons_append, inOrder, ih, inOrder, bind_assoc]

theorem inOrder_of_error {a : Action} {fault : Fault} (h : c.perform a s = (.error fault, t)) (rest : List Action) :
    c.inOrder ⟨a, rest⟩ s = (.error fault, t) := by
  cases rest with
  | nil => rw [inOrder, h]
  | cons b rest => rw [inOrder, Op.bind_of_error h]

end Context

namespace Environment
variable {env after start : Environment σ} {registers : σ → ρ}

/-- Carrying out a task in an environment comes to an outcome, as soon as it may nest deep enough. -/
def Executes (env : Environment σ) (t : Task) (outcome : Except Fault Bool) (after : Environment σ) : Prop :=
  ∃ depth, ∀ n ≥ depth, Guarded.execute n t env = some (outcome, after)

theorem executes_carryOut (env : Environment σ) (t : Task) :
    env.Executes t (env.context.carryOut t env.state).1 (env.withState (env.context.carryOut t env.state).2) :=
  ⟨env.context.depth t + 1, fun n hn => Guarded.execute_does env.context t n hn env rfl⟩

theorem executes_iff {t : Task} {outcome : Except Fault Bool} :
    env.Executes t outcome after ↔
      (env.context.carryOut t env.state).1 = outcome ∧ after = env.withState (env.context.carryOut t env.state).2 := by
  constructor
  · rintro ⟨depth, hexecutes⟩
    obtain ⟨depth', hdoes⟩ := env.executes_carryOut t
    have hboth := (hdoes _ (le_max_right depth depth')).symm.trans (hexecutes _ (le_max_left _ _))
    obtain ⟨houtcome, hafter⟩ := Prod.mk.inj (Option.some.inj hboth)
    exact ⟨houtcome, hafter.symm⟩
  · rintro ⟨rfl, rfl⟩
    exact env.executes_carryOut t

/-- An environment after something was carried out in it is what it was before, but for hardware whose registers hold
what they held, and accesses that have been noted. -/
def Untouched (registers : σ → ρ) (before after : Environment σ) : Prop :=
  ∃ t, after = before.withState t ∧ before.state.Untouched registers t

/-- What carrying out some actions in order leads to. If there are none, nothing is done. -/
inductive RunsThrough (env : Environment σ) : List Action → Environment σ → Prop
  | none : RunsThrough env [] env
  | some {as : Procedure} {answer after} : env.Executes (.inOrder as) (.ok answer) after →
      RunsThrough env as.toList after

/-- A procedure fails where one of its actions does, after those before it. -/
theorem RunsThrough.executes {before rest : List Action} {a : Action} {fault : Fault} {p : Procedure}
    (hbefore : start.RunsThrough before env) (hfails : env.Executes (.action a) (.error fault) after)
    (hp : p.toList = before ++ a :: rest) : start.Executes (.inOrder p) (.error fault) after := by
  obtain ⟨hfault, rfl⟩ := executes_iff.mp hfails
  have hhead : env.context.inOrder ⟨a, rest⟩ env.state = (.error fault, (env.context.perform a env.state).2) :=
    Context.inOrder_of_error (Prod.ext hfault rfl) rest
  rw [executes_iff]
  cases hbefore with
  | none =>
    obtain rfl : p = ⟨a, rest⟩ := by
      obtain ⟨_, _⟩ := p
      cases hp
      rfl
    have hstate := congrArg Prod.snd hhead.symm
    exact ⟨congrArg Prod.fst hhead, congrArg env.withState hstate⟩
  | @some as answer _ hexecutes =>
    obtain ⟨hanswer, rfl⟩ := executes_iff.mp hexecutes
    have hboth : start.context.inOrder ⟨as.first, as.rest ++ a :: rest⟩ start.state = _ :=
      (congrFun (start.context.inOrder_append as ⟨a, rest⟩) start.state).trans
        ((Op.bind_of_ok (Prod.ext hanswer rfl)).trans hhead)
    obtain rfl : p = ⟨as.first, as.rest ++ a :: rest⟩ := by
      obtain ⟨_, _⟩ := p
      cases hp
      rfl
    have hstate := congrArg Prod.snd hboth.symm
    exact ⟨congrArg Prod.fst hboth, congrArg start.withState hstate⟩

/-- A single action that fails, unless in reading back what it has written, leaves everything as it was if its bus does:
all registers, what has been recorded, presence results, and the environment as a whole. So a procedure in which it is
the first to fail leaves what the actions before it have left. -/
theorem failed_leaf_touches_nothing {a : Action} {fault : Fault} (hleaf : a.isLeaf = true)
    (hbus : ∀ d, env.context.device = .ok d → d.bus.Spares registers)
    (hfails : env.Executes (.action a) (.error fault) after) (hread : ¬env.context.FailsReadBack env.state a) :
    env.Untouched registers after ∧
      ∀ (start : Environment σ) before rest (p : Procedure), start.RunsThrough before env →
        p.toList = before ++ a :: rest → start.Executes (.inOrder p) (.error fault) after := by
  obtain ⟨hfault, hafter⟩ := executes_iff.mp hfails
  refine ⟨⟨_, hafter, ?_⟩, fun start before rest p hbefore hp => hbefore.executes hfails hp⟩
  exact Context.perform_failsClean hleaf hbus hread fault _ (Prod.ext hfault rfl)

end Environment
end

/-! ### A supply that cannot be written to -/

/-- Its registers can be read, and no write is acknowledged. -/
def lockedSupply : Device RegisterFile where
  id := "psu"
  isRegulator := true
  inventoryPath := ""
  bus := { RegisterFile.bus ⟨"i2c0", 0x40⟩ with
    write := fun register data f =>
      (.error ⟨⟨"i2c0", 0x40⟩, .notAcknowledged register⟩, f.logged (.wrote register data)) }

/-- On behalf of a supply that takes no writes. -/
def locked : Environment RegisterFile where
  plant := ⟨[⟨"chassis", "", [lockedSupply]⟩], []⟩
  cycle := 0
  maxRuleDepth := 8
  base := ⟨"psu", none⟩
  state := { hardware := ({} : RegisterFile).setRegister 0x10 [0xAA] }

def statusBlock : BlockRead := ⟨0x10, 5, by decide, by decide⟩

def lowBits : RegisterWrite := ⟨0x10, [0x03], some [0x0F], by decide, by decide, by decide⟩

/-- A finding without captured bytes. -/
def noticed : Action := .logFinding { severity := .notice, code := "done", message := "" }

/-- What capturing leaves. -/
def captured : Environment RegisterFile := locked.withState (locked.context.captureBlock statusBlock locked.state).2

theorem lockedSupply_spares : ∀ d, captured.context.device = .ok d → d.bus.Spares RegisterFile.registers := by
  rintro _ ⟨⟩
  exact { RegisterFile.spares_bus ⟨"i2c0", 0x40⟩ with failedWrite := fun h => by cases h; rfl }

/-- Between a capture and a finding, a write with a mask reads its register, and is not acknowledged. What has been
captured stays, and the finding is not made. -/
theorem lockedSupply_untouched : ∃ fault after, locked.RunsThrough [.capture statusBlock] captured ∧
    captured.Untouched RegisterFile.registers after ∧
    locked.Executes (.inOrder ⟨.capture statusBlock, [.writeRegister lowBits, noticed]⟩) (.error fault) after ∧
    after.state.hardware.log = [.opened, .read 0x10 5, .read 0x10 1, .wrote 0x10 [0xA3]] := by
  have hexecutes : locked.Executes (.inOrder ⟨.capture statusBlock, []⟩) (.ok true) captured := by
    rw [Environment.executes_iff, Context.carryOut, Context.inOrder, Context.perform_of_single? rfl]
    exact ⟨rfl, rfl⟩
  have hcapture : locked.RunsThrough [.capture statusBlock] captured := .some hexecutes
  have hwrite := captured.executes_carryOut (.action (.writeRegister lowBits))
  rw [Context.carryOut, Context.perform_of_single? rfl] at hwrite
  have hread : ¬captured.context.FailsReadBack captured.state (.writeRegister lowBits) := by rintro ⟨⟩
  obtain ⟨huntouched, hprocedure⟩ :=
    Environment.failed_leaf_touches_nothing rfl lockedSupply_spares hwrite hread
  exact ⟨_, _, hcapture, huntouched, hprocedure locked _ [noticed] _ hcapture rfl, rfl⟩

end PowerRails
