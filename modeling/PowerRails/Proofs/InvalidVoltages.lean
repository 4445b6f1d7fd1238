import PowerRails.Proofs.Rounding
import PowerRails.Proofs.VoutProgramming

/-! # Invalid voltages

A number that is negative, infinite or undefined is refused where a command is made with it. The voltage of a
configuration is not looked at when it is made, so it is only when the voltage is encoded that it may be refused. What
is encoded has been rounded before. So a voltage of less than half a unit below zero passes for zero, and the device is
told to output nothing; all others are refused, unless the exponent cannot even be read. -/

namespace PowerRails

/-- Numbers that are not finite, and numbers below zero. -/
def Binary64.Invalid (x : Binary64) : Prop := ∀ y, x.value? = some y → y < 0

theorem VoutCommand.make_of_invalid {volts : Binary64} (h : volts.Invalid) (exponent : Option Int) (verify : Bool) :
    make (some volts) exponent verify =
      .error (.invalidAction Linear16.action ("invalid voltage " ++ volts.plain)) := by
  refine dif_neg fun hvoltage => ?_
  obtain ⟨y, hy, hnonneg⟩ := Binary64.isVoltage_iff.mp (hvoltage volts rfl)
  exact absurd (h y hy) (not_lt.mpr hnonneg)

/-- A fault by which a command that sets an output voltage is refused. -/
def Fault.Refuses (fault : Fault) : Prop := ∃ details, fault.cause = .invalidAction Linear16.action details

section
variable {σ α : Type}

namespace Context
variable {c : Context σ} {v : VoutCommand} {volts : Binary64} {s t : State σ} {fault : Fault}

/-- A command has been refused, and no write has been attempted. -/
def Refused (s : State σ) (r : Except Fault Bool × State σ) : Prop :=
  (∃ fault, r.1 = .error fault ∧ fault.Refuses) ∧ s.Writes r.2 []

/-- The exponent of a command is that of its device, and cannot be read. -/
def ExponentUnread (c : Context σ) (v : VoutCommand) (s : State σ) : Prop :=
  v.exponent = none ∧ ∃ fault t, c.readByte Linear16.modeRegister s = (.error fault, t)

/-- A voltage is finite, and not even half a unit below zero. -/
def NearZero (c : Context σ) (v : VoutCommand) (volts : Binary64) (s : State σ) : Prop :=
  ∃ exponent t x, c.Exponent v s exponent t ∧ volts.value? = some x ∧ -2 ^ (exponent - 1) < x

/-! ### Accesses refuse nothing -/

theorem access_not_refuses {register : UInt8} {request : Request} {step : Bus σ → Transfer σ α}
    (h : c.access register request step s = (.error fault, t)) : ¬fault.Refuses := by
  have hcomes := c.access_comes register request step s
  rw [h] at hcomes
  generalize hr : ((.error fault, t) : Except Fault α × State σ) = r at hcomes
  rintro ⟨details, hrefuses⟩
  cases hcomes with
  | unplaced hd =>
    cases hr
    unfold device Plant.device at hd
    split at hd <;> cases hd
    cases hrefuses
  | taken =>
    cases hr
    cases hrefuses
  | unopened _ hconnect =>
    cases hr
    obtain ⟨e, rfl⟩ := fault_of_transfer hconnect
    cases hrefuses
  | transfer =>
    obtain ⟨e, rfl⟩ := fault_of_transfer hr.symm
    cases hrefuses

theorem send_not_refuses {data : Bytes} (h : c.send v data s = (.error fault, t)) : ¬fault.Refuses := by
  obtain hwrite | ⟨_, u, -, h⟩ := Op.bind_eq_error h
  · exact access_not_refuses hwrite
  · split at h
    · obtain hread | ⟨actual, w, -, h⟩ := Op.bind_eq_error h
      · exact access_not_refuses hread
      · unfold confirmWrite at h
        split at h <;> cases h
        rintro ⟨details, hrefuses⟩
        cases hrefuses
    · cases h

theorem send_writes {d : Device σ} (hd : c.device = .ok d) (hfree : c.scope.device ∉ c.held) (hopen : ¬c.CannotOpen s)
    (data : Bytes) : s.Writes (c.send v data s).2 [⟨c.scope, Linear16.commandRegister, data⟩] := by
  refine (writeBlock_writes hd hfree hopen _ _).bind fun _ t => ?_
  split
  · refine (c.readBlock_writes _ _ t).bind fun actual u => ?_
    unfold confirmWrite
    split <;> exact .refl u
  · exact .refl t

/-! ### Voltages of configurations -/

theorem voutExponent_of_exponent {exponent : Int} (h : c.Exponent v s exponent t) :
    c.voutExponent v s = (.ok exponent, t) := by
  unfold voutExponent
  cases h with
  | own hown =>
    rw [hown]
    rfl
  | told hnone hread hmode =>
    rw [hnone]
    refine (Op.bind_of_ok hread).trans ?_
    rw [Op.ofExcept_apply, hmode]

/-- Settling the exponent fails where it cannot be read, and refuses a device that encodes voltages differently. -/
theorem voutExponent_eq_error (h : c.voutExponent v s = (.error fault, t)) :
    v.exponent = none ∧ (c.readByte Linear16.modeRegister s = (.error fault, t) ∨
      fault.Refuses ∧ ∃ mode, c.readByte Linear16.modeRegister s = (.ok mode, t)) := by
  unfold voutExponent at h
  cases hexponent : v.exponent with
  | some exponent =>
    rw [hexponent] at h
    cases h
  | none =>
    rw [hexponent] at h
    refine ⟨rfl, ?_⟩
    obtain hread | ⟨mode, u, hread, h⟩ := Op.bind_eq_error h
    · exact .inl hread
    · rw [Op.ofExcept_apply] at h
      obtain ⟨hmode, rfl⟩ := Prod.mk.inj h
      unfold Linear16.exponentOfMode at hmode
      dsimp only at hmode
      split at hmode <;> cases hmode
      exact .inr ⟨⟨_, rfl⟩, mode, hread⟩

section
variable (hinvalid : volts.Invalid) (hvolts : v.volts.or c.volts = some volts)
include hinvalid hvolts

theorem setVout_of_nearZero (h : c.NearZero v volts s) :
    ∃ exponent t, c.Exponent v s exponent t ∧ Linear16.encode volts exponent = .ok 0 ∧
      c.setVout v s = c.send v [0, 0] t := by
  obtain ⟨exponent, t, x, hexponent, hx, hnear⟩ := h
  have hencode : Linear16.encode volts exponent = .ok 0 := by
    obtain ⟨-, -, -, hencode⟩ | ⟨hfar, -⟩ := Linear16.encode_of_invalid hinvalid exponent
    · exact hencode
    · exact absurd hnear (not_lt.mpr (hfar x hx))
  refine ⟨exponent, t, hexponent, hencode, ?_⟩
  rw [setVout_of_volts hvolts, Op.bind_of_ok (voutExponent_of_exponent hexponent), hencode]
  rfl

theorem setVout_refused (hread : ¬c.ExponentUnread v s) (hfar : ¬c.NearZero v volts s) :
    ∃ fault t, c.setVout v s = (.error fault, t) ∧ fault.Refuses ∧ s.Writes t [] := by
  rw [setVout_of_volts hvolts]
  obtain ⟨exponent, t, hok, hexponent, hwrites⟩ | ⟨fault, t, hfails, hwrites, -⟩ := c.voutExponent_cases v s
  · rw [Op.bind_of_ok hok]
    obtain ⟨x, hx, hnear, -⟩ | ⟨-, hencode⟩ := Linear16.encode_of_invalid hinvalid exponent
    · exact absurd ⟨exponent, t, x, hexponent, hx, hnear⟩ hfar
    · rw [hencode]
      exact ⟨_, t, rfl, ⟨_, rfl⟩, hwrites⟩
  · rw [Op.bind_of_error hfails]
    obtain ⟨hnone, hunread | ⟨hrefuses, -⟩⟩ := voutExponent_eq_error hfails
    · exact absurd ⟨hnone, fault, t, hunread⟩ hread
    · exact ⟨fault, t, rfl, hrefuses, hwrites⟩

omit hinvalid in
theorem setVout_of_unread (h : c.ExponentUnread v s) :
    ∃ fault t, c.setVout v s = (.error fault, t) ∧ ¬fault.Refuses ∧ s.Writes t [] := by
  obtain ⟨hnone, fault, t, hread⟩ := h
  have hwrites := c.readByte_writes Linear16.modeRegister s
  rw [hread] at hwrites
  refine ⟨fault, t, ?_, access_not_refuses hread, hwrites⟩
  rw [setVout_of_volts hvolts, voutExponent, hnone, bind_assoc, Op.bind_of_error hread]

/-- A voltage that is rounded to zero is taken for zero. -/
theorem setVout_as_zero (hv : v.volts = none) (h : c.NearZero v volts s) :
    c.setVout v s = (c.withVolts (some (.zero false))).setVout v s ∧
      ∃ t, c.Encodes v s [0, 0] t ∧ s.Writes t [] ∧
        ∀ d, c.device = .ok d → c.scope.device ∉ c.held → ¬c.CannotOpen t →
          s.Writes (c.setVout v s).2 [⟨c.scope, Linear16.commandRegister, [0, 0]⟩] := by
  obtain ⟨exponent, t, hexponent, hencode, hsend⟩ := setVout_of_nearZero hinvalid hvolts h
  have hok := voutExponent_of_exponent hexponent
  have hzero : (c.withVolts (some (.zero false))).setVout v s = c.send v [0, 0] t := by
    have hvolts' : v.volts.or (c.withVolts (some (.zero false))).volts = some (.zero false) := by rw [hv]; rfl
    rw [setVout_of_volts hvolts']
    -- The exponent is settled in the same way whatever the voltage is.
    refine (Op.bind_of_ok (s := s) (t := t) hok).trans ?_
    rw [Linear16.encode_zero]
    rfl
  have hwrites : s.Writes t [] := by
    obtain ⟨_, _, hok', -, hwrites⟩ | ⟨_, _, hfails, -⟩ := c.voutExponent_cases v s
    · cases hok.symm.trans hok'
      exact hwrites
    · cases hok.symm.trans hfails
  rw [hsend, hzero]
  exact ⟨rfl, t, .word hvolts hexponent hencode rfl rfl, hwrites,
    fun d hd hfree hopen => hwrites.trans (send_writes hd hfree hopen _)⟩

end

/-- An invalid voltage is refused where a command is made with it. If it is left to the configuration, the command is
refused, with nothing written, exactly if its exponent can be read and the voltage is at least half a unit below zero or
not finite. If the exponent cannot be read, that is how the command fails. And if the voltage is less than half a unit
below zero, the command does what it does for zero, and the device is told to output zero volts. -/
theorem invalid_volts_refused_iff (hinvalid : volts.Invalid) (hc : c.volts = some volts) (hv : v.volts = none)
    (s : State σ) :
    (∀ exponent verify, VoutCommand.make (some volts) exponent verify =
      .error (.invalidAction Linear16.action ("invalid voltage " ++ volts.plain))) ∧
    (Refused s (c.perform (.setVout v) s) ↔ ¬c.ExponentUnread v s ∧ ¬c.NearZero v volts s) ∧
    (c.ExponentUnread v s → ∃ fault t, c.perform (.setVout v) s = (.error fault, t) ∧ s.Writes t []) ∧
    (c.NearZero v volts s →
      c.perform (.setVout v) s = (c.withVolts (some (.zero false))).perform (.setVout v) s ∧
      ∃ t, c.Encodes v s [0, 0] t ∧ s.Writes t [] ∧
        ∀ d, c.device = .ok d → c.scope.device ∉ c.held → ¬c.CannotOpen t →
          s.Writes (c.perform (.setVout v) s).2 [⟨c.scope, Linear16.commandRegister, [0, 0]⟩]) := by
  have hvolts : v.volts.or c.volts = some volts := by rw [hv, hc, Option.none_or]
  rw [perform_of_single? rfl, perform_of_single? rfl]
  refine ⟨VoutCommand.make_of_invalid hinvalid, ⟨fun hrefused => ⟨fun hunread => ?_, fun hnear => ?_⟩, fun h => ?_⟩,
    fun hunread => ?_, fun hnear => ?_⟩
  · obtain ⟨fault, t, hfails, hnot, -⟩ := setVout_of_unread hvolts hunread
    rw [Op.framed_of_error hfails] at hrefused
    obtain ⟨_, ⟨⟩, hrefuses⟩ := hrefused.1
    exact hnot hrefuses
  · obtain ⟨exponent, t, -, -, hsend⟩ := setVout_of_nearZero hinvalid hvolts hnear
    obtain ⟨⟨outer, houter, hrefuses⟩, -⟩ := hrefused
    obtain ⟨inner, hinner, rfl⟩ := Op.framed_eq_error (Prod.ext houter rfl)
    exact send_not_refuses (hsend.symm.trans hinner) hrefuses
  · obtain ⟨fault, t, hfails, hrefuses, hwrites⟩ := setVout_refused hinvalid hvolts h.1 h.2
    rw [Op.framed_of_error hfails]
    exact ⟨⟨_, rfl, hrefuses⟩, hwrites⟩
  · obtain ⟨fault, t, hfails, -, hwrites⟩ := setVout_of_unread hvolts hunread
    rw [Op.framed_of_error hfails]
    exact ⟨_, t, rfl, hwrites⟩
  · obtain ⟨hzero, hwritten⟩ := setVout_as_zero hinvalid hvolts hv hnear
    rw [Op.framed_apply, Op.framed_apply, ← hzero]
    exact ⟨rfl, hwritten⟩

end Context
end

/-! ### A tenth of a millivolt below zero -/

/-- -0.0001 -/
def slightlyNegative : Binary64 := ⟨0xBF1A36E2EB1C432D⟩

theorem slightlyNegative_value : slightlyNegative.value? = some (-(7378697629483821 * 2 ^ (-66 : ℤ))) := by
  have hreading : slightlyNegative.reading = .finite true 7378697629483821 (-66) := by decide
  simp [Binary64.value?, hreading, Binary64.Reading.value?]

theorem slightlyNegative_invalid : slightlyNegative.Invalid := by
  intro y hy
  rw [slightlyNegative_value] at hy
  cases hy
  norm_num

/-- A command that does not read back what it wrote. -/
def coarseCommand : VoutCommand := { openCommand with verify := false }

/-- A supply that is configured with a voltage a little below zero. -/
def undervolted : Controller RegisterFile where
  plant :=
    ⟨[⟨"chassis", "",
      [{ id := "psu", isRegulator := true, inventoryPath := "", bus := RegisterFile.bus ⟨"i2c0", 0x40⟩,
         configuration := some ⟨some slightlyNegative, ⟨.setVout coarseCommand, []⟩⟩ }]⟩], []⟩
  hardware := {}

theorem undervolted_nearZero (s : State RegisterFile) :
    ((undervolted.visitContext 0 {} "psu").withVolts (some slightlyNegative)).NearZero coarseCommand
      slightlyNegative s := by
  refine ⟨-9, s, _, .own rfl, slightlyNegative_value, ?_⟩
  norm_num

/-- No command is made with this voltage, and yet, as that of a configuration, it is not refused in any state. -/
theorem undervolted_not_refused : slightlyNegative.Invalid ∧
    (∀ exponent verify, ∃ fault, VoutCommand.make (some slightlyNegative) exponent verify = .error fault) ∧
    ∀ s, ¬Context.Refused s
      (((undervolted.visitContext 0 {} "psu").withVolts (some slightlyNegative)).perform
        (.setVout coarseCommand) s) := by
  have hiff := fun s => Context.invalid_volts_refused_iff
    (c := (undervolted.visitContext 0 {} "psu").withVolts (some slightlyNegative)) slightlyNegative_invalid rfl
    (v := coarseCommand) rfl s
  exact ⟨slightlyNegative_invalid, fun exponent verify => ⟨_, (hiff { hardware := {} }).1 exponent verify⟩,
    fun s hrefused => ((hiff s).2.1.mp hrefused).2 (undervolted_nearZero s)⟩

/-- The supply is told to output nothing, and nobody learns that this is not what its configuration asks for. -/
theorem undervolted_told_zero : ∃ k : Call RegisterFile,
    undervolted.Calls .configure k ∧ k.task = .action (.setVout coarseCommand) ∧
      k.context.volts = some slightlyNegative ∧ slightlyNegative.Invalid ∧ k.outcome.1 = .ok true ∧
      k.state.Writes k.outcome.2 [⟨⟨"psu", none⟩, 0x21, [0x00, 0x00]⟩] := by
  have hfinds : (undervolted.visitContext 0 {} "psu").resolvePresence "psu" { hardware := {}, presence := {} } =
      (.ok true, _) := (Context.resolvePresence_of_device rfl rfl).trans rfl
  have hplaces : undervolted.plant.places = [] ++ undervolted.plant.places := rfl
  have hcalls : undervolted.Calls .configure _ := .visit hplaces (.own hfinds (.configuration rfl)) (.single .first)
  refine ⟨_, hcalls, rfl, rfl, slightlyNegative_invalid, ?_, ?_⟩
  · show (Context.perform _ _ _).1 = _
    rw [Context.perform_of_single? rfl]
    rfl
  · show State.Writes _ (Context.perform _ _ _).2 _
    rw [Context.perform_of_single? rfl]
    rfl

end PowerRails
