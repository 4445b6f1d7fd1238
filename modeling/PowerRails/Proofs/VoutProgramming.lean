import PowerRails.Proofs.Attribution
import PowerRails.Proofs.FailStop
import PowerRails.Proofs.Writes

/-! # Programming output voltages

A command that sets an output voltage settles three things before it writes anything: the voltage, the exponent and the
word that encodes them. If one of them fails, the device is not told anything; otherwise it is told once, in two bytes,
and if the command is to be verified it answers only when these bytes are read back.

A voltage that the command leaves open is that of the configuration whose list is being carried out, wherever the
command stands: within rules and on other devices as well. Each list has the voltage of its own configuration, also if
that has none. While monitoring, and in the presence detections that anything asks for, there is no such voltage. -/

namespace PowerRails

/-- Two bytes hold their word, the lower one first. -/
theorem Linear16.littleEndian_wordBytes (word : UInt16) :
    (wordBytes word).length = 2 ∧ RegisterFormat.littleEndian (wordBytes word) = word.toNat := by
  refine ⟨rfl, ?_⟩
  have hlt : word.toNat < 65536 := word.toNat_lt
  simp only [wordBytes, RegisterFormat.littleEndian, UInt8.toNat_ofNat']
  omega

section
variable {σ : Type}

/-! ### Single commands -/

namespace Context
variable {c : Context σ} {v : VoutCommand} {s : State σ} {d : Device σ}

/-- The exponent of a command: its own, or the one that the active device tells when it is read for the command. -/
inductive Exponent (c : Context σ) (v : VoutCommand) (s : State σ) : Int → State σ → Prop
  | own {exponent} : v.exponent = some exponent → Exponent c v s exponent s
  | told {mode exponent t} : v.exponent = none → c.readByte Linear16.modeRegister s = (.ok mode, t) →
      Linear16.exponentOfMode mode = .ok exponent → Exponent c v s exponent t

/-- Voltage, exponent and encoding are settled, and these are the two bytes of the word, the lower one first. -/
inductive Encodes (c : Context σ) (v : VoutCommand) (s : State σ) : Bytes → State σ → Prop
  | word {volts exponent word data t} : v.volts.or c.volts = some volts → c.Exponent v s exponent t →
      Linear16.encode volts exponent = .ok word → data.length = 2 → RegisterFormat.littleEndian data = word.toNat →
      Encodes c v s data t

/-- Voltage, exponent or encoding is not to be had. -/
inductive Unsettled (c : Context σ) (v : VoutCommand) (s : State σ) : Fault → State σ → Prop
  | voltless : v.volts = none → c.volts = none →
      Unsettled c v s (.invalidAction Linear16.action "no volts value defined by the action or configuration") s
  | modeUnread {fault t} : (v.volts.or c.volts).isSome → v.exponent = none →
      c.readByte Linear16.modeRegister s = (.error fault, t) → Unsettled c v s fault t
  | notLinear {mode fault t} : (v.volts.or c.volts).isSome → v.exponent = none →
      c.readByte Linear16.modeRegister s = (.ok mode, t) → Linear16.exponentOfMode mode = .error fault →
      Unsettled c v s fault t
  | unrepresentable {volts exponent fault t} : v.volts.or c.volts = some volts → c.Exponent v s exponent t →
      Linear16.encode volts exponent = .error fault → Unsettled c v s fault t

/-- How a command ends once its bytes are to be written: as the write fails, or answering at once if it is not to be
verified, or by what is read back afterwards. -/
inductive Writing (c : Context σ) (v : VoutCommand) (data : Bytes) (t : State σ) : Except Fault Bool × State σ → Prop
  | failed {fault u} : c.writeBlock Linear16.commandRegister data t = (.error fault, u) →
      Writing c v data t (.error fault, u)
  | unverified {u} : c.writeBlock Linear16.commandRegister data t = (.ok (), u) → v.verify = false →
      Writing c v data t (.ok true, u)
  | unread {fault u w} : c.writeBlock Linear16.commandRegister data t = (.ok (), u) → v.verify = true →
      c.readBlock Linear16.commandRegister data.length u = (.error fault, w) → Writing c v data t (.error fault, w)
  | confirmed {u w} : c.writeBlock Linear16.commandRegister data t = (.ok (), u) → v.verify = true →
      c.readBlock Linear16.commandRegister data.length u = (.ok data, w) → Writing c v data t (.ok true, w)
  | mismatched {actual u w} : c.writeBlock Linear16.commandRegister data t = (.ok (), u) → v.verify = true →
      c.readBlock Linear16.commandRegister data.length u = (.ok actual, w) → actual ≠ data →
      Writing c v data t (.error ⟨.writeMismatch c.scope.device Linear16.commandRegister data actual, []⟩, w)

/-- All that carrying out a command can come to, with what is written meanwhile. -/
inductive SetsVout (c : Context σ) (v : VoutCommand) (s : State σ) : Except Fault Bool × State σ → Prop
  | unsettled {fault t} : c.Unsettled v s fault t → s.Writes t [] → SetsVout c v s (.error fault, t)
  | unopened {data t u} {e : BusError} : c.Encodes v s data t → c.CannotOpen t → s.Writes u [] →
      SetsVout c v s (.error (c.accessFault Linear16.commandRegister e.text), u)
  | attempted {data t r} : c.Encodes v s data t → ¬c.CannotOpen t → s.Writes t [] → c.Writing v data t r →
      t.Writes r.2 [⟨c.scope, Linear16.commandRegister, data⟩] → SetsVout c v s r

/-- Settling the exponent writes nothing. -/
theorem voutExponent_cases (c : Context σ) (v : VoutCommand) (s : State σ) :
    (∃ exponent t, c.voutExponent v s = (.ok exponent, t) ∧ c.Exponent v s exponent t ∧ s.Writes t []) ∨
      ∃ fault t, c.voutExponent v s = (.error fault, t) ∧ s.Writes t [] ∧
        ((v.volts.or c.volts).isSome → c.Unsettled v s fault t) := by
  unfold voutExponent
  cases hexponent : v.exponent with
  | some exponent => exact Or.inl ⟨exponent, s, rfl, .own hexponent, .refl s⟩
  | none =>
    rcases hread : c.readByte Linear16.modeRegister s with ⟨fault | mode, t⟩
    · have hwrites : s.Writes t [] := by simpa [hread] using c.readByte_writes Linear16.modeRegister s
      exact Or.inr ⟨fault, t, Op.bind_of_error hread, hwrites, fun hvolts => .modeUnread hvolts hexponent hread⟩
    · have hwrites : s.Writes t [] := by simpa [hread] using c.readByte_writes Linear16.modeRegister s
      have htold := Op.bind_of_ok (f := fun mode => Op.ofExcept (Linear16.exponentOfMode mode)) hread
      rw [Op.ofExcept_apply] at htold
      cases hmode : Linear16.exponentOfMode mode with
      | error fault =>
        rw [hmode] at htold
        exact Or.inr ⟨fault, t, htold, hwrites, fun hvolts => .notLinear hvolts hexponent hread hmode⟩
      | ok exponent =>
        rw [hmode] at htold
        exact Or.inl ⟨exponent, t, htold, .told hexponent hread hmode, hwrites⟩

/-- Telling the device some bytes, and reading them back if the command is to be verified. -/
def send (c : Context σ) (v : VoutCommand) (data : Bytes) : Op σ Bool := do
  c.writeBlock Linear16.commandRegister data
  if v.verify then
    let actual ← c.readBlock Linear16.commandRegister data.length
    c.confirmWrite Linear16.commandRegister data actual
  else pure true

theorem setVout_of_volts {volts : Binary64} (h : v.volts.or c.volts = some volts) :
    c.setVout v = c.voutExponent v >>= fun exponent =>
      Op.ofExcept (Linear16.encode volts exponent) >>= fun word => c.send v (Linear16.wordBytes word) := by
  unfold setVout
  rw [h]
  rfl

/-- What is written and read back once the bytes are known. -/
theorem writing_cases (hd : c.device = .ok d) (hfree : c.scope.device ∉ c.held) {t : State σ} {data : Bytes}
    (hencodes : c.Encodes v s data t) (hwrites : s.Writes t []) : c.SetsVout v s (c.send v data t) := by
  unfold send
  by_cases hclosed : c.CannotOpen t
  · obtain ⟨e, u, hfails, hnone⟩ := writeBlock_of_cannotOpen hfree hclosed Linear16.commandRegister data
    rw [Op.bind_of_error hfails]
    exact .unopened hencodes hclosed (hwrites.trans hnone)
  · have hone := writeBlock_writes hd hfree hclosed Linear16.commandRegister data
    rcases hwrite : c.writeBlock Linear16.commandRegister data t with ⟨fault | _, u⟩ <;> rw [hwrite] at hone
    · rw [Op.bind_of_error hwrite]
      exact .attempted hencodes hclosed hwrites (.failed hwrite) hone
    · rw [Op.bind_of_ok hwrite]
      cases hverify : v.verify with
      | false => exact .attempted hencodes hclosed hwrites (.unverified hwrite hverify) hone
      | true =>
        rw [if_pos rfl]
        have hmore := hone.trans (c.readBlock_writes Linear16.commandRegister data.length u)
        rcases hread : c.readBlock Linear16.commandRegister data.length u with ⟨fault | actual, w⟩ <;>
          rw [hread] at hmore
        · rw [Op.bind_of_error hread]
          exact .attempted hencodes hclosed hwrites (.unread hwrite hverify hread) hmore
        · rw [Op.bind_of_ok hread, confirmWrite]
          split
          · rename_i hsame
            exact .attempted hencodes hclosed hwrites (.confirmed hwrite hverify (hsame ▸ hread)) hmore
          · rename_i hother
            exact .attempted hencodes hclosed hwrites (.mismatched hwrite hverify hread hother) hmore

theorem setVout_sets (hd : c.device = .ok d) (hfree : c.scope.device ∉ c.held) (v : VoutCommand) (s : State σ) :
    c.SetsVout v s (c.setVout v s) := by
  cases hvolts : v.volts.or c.volts with
  | none =>
    obtain ⟨hown, hconfigured⟩ := Option.or_eq_none_iff.mp hvolts
    unfold setVout
    rw [hvolts]
    exact .unsettled (.voltless hown hconfigured) (.refl s)
  | some volts =>
    have hsome : (v.volts.or c.volts).isSome := by rw [hvolts]; rfl
    rw [setVout_of_volts hvolts]
    rcases c.voutExponent_cases v s with
      ⟨exponent, t, hok, hexponent, hwrites⟩ | ⟨fault, t, hfails, hwrites, hunsettled⟩
    · rw [Op.bind_of_ok hok]
      cases hencode : Linear16.encode volts exponent with
      | error fault => exact .unsettled (.unrepresentable hvolts hexponent hencode) hwrites
      | ok word =>
        obtain ⟨hlength, hvalue⟩ := Linear16.littleEndian_wordBytes word
        exact writing_cases hd hfree (.word hvolts hexponent hencode hlength hvalue) hwrites
    · rw [Op.bind_of_error hfails]
      exact .unsettled (hunsettled hsome) hwrites

end Context

/-! ### Whose voltage -/

namespace Call
variable {k k' : Call σ}

/-- A call has the voltage of the one that makes it, unless it is a presence detection, which has none. -/
theorem Makes.volts (h : k.Makes k') :
    (k'.context.volts = k.context.volts ∧ k'.context.detecting = k.context.detecting) ∨
      k'.context.volts = none ∧ k'.context.detecting ≠ [] := by
  cases h with
  | detection => exact Or.inr ⟨rfl, by simp [Context.detached]⟩
  | _ => exact Or.inl ⟨rfl, rfl⟩

/-- The voltage stays the same until a presence detection is entered, and there is none from then on. -/
theorem Leads.volts (h : k.Leads k') :
    (k'.context.volts = k.context.volts ∧ k'.context.detecting = k.context.detecting) ∨
      k'.context.volts = none ∧ k'.context.detecting ≠ [] := by
  induction h with
  | refl => exact Or.inl ⟨rfl, rfl⟩
  | tail _ hmakes ih =>
    rcases hmakes.volts with ⟨hvolts, hdetecting⟩ | hnone
    · rw [hvolts, hdetecting]
      exact ih
    · exact Or.inr hnone

/-- What finding out presence leads to, apart from itself, is in a presence detection. -/
theorem Leads.of_presence {c : Context σ} {id : String} {s : State σ} (h : Leads ⟨c, .presence id, s⟩ k)
    (htask : k.task ≠ .presence id) : k.context.volts = none ∧ k.context.detecting ≠ [] := by
  rcases h.cases_head with rfl | ⟨k₁, hmakes, hleads⟩
  · exact absurd rfl htask
  · cases hmakes with
    | detection =>
      rcases Leads.volts hleads with ⟨hvolts, hdetecting⟩ | hnone
      · exact ⟨hvolts, by simp [hdetecting, Context.detached]⟩
      · exact hnone

end Call

/-! ### Runs -/

namespace Context
variable {c : Context σ} {kind : RunKind} {s : State σ} {d : Device σ} {k : Call σ}

theorem VisitMakes.held (h : c.VisitMakes kind d s k) : k.context.held = c.held := by
  cases h with
  | presence => rfl
  | own _ hown => cases hown <;> rfl
  | rails _ _ hrails =>
    obtain ⟨r, -, t, hmakes⟩ := hrails.exists_rail
    cases hmakes <;> rfl

end Context

namespace Controller
variable {ctl : Controller σ} {kind : RunKind} {k : Call σ}

/-- A call by which a run carries out the list of a configuration, with the voltage that this has or has not: of a
device that is visited, or of one of its rails. -/
inductive Applies (ctl : Controller σ) : Configuration → Call σ → Prop
  | device {before place after configuration s} : ctl.plant.places = before ++ place :: after →
      place.2.configuration = some configuration →
      Applies ctl configuration
        ⟨(ctl.visitContext ctl.cycles (ctl.progress .configure before).report.captures place.2.id).withVolts
          configuration.volts, .inOrder configuration.actions, s⟩
  | rail {before place after r configuration s} : ctl.plant.places = before ++ place :: after → r ∈ place.2.rails →
      r.configuration = some configuration →
      Applies ctl configuration
        ⟨((ctl.visitContext ctl.cycles (ctl.progress .configure before).report.captures place.2.id).inRail
          r.id).withVolts configuration.volts, .inOrder configuration.actions, s⟩

/-- The voltage that a call of a run sees: that of the configuration whose list it belongs to, or none, while monitoring
and in every presence detection. -/
inductive Sees (ctl : Controller σ) (kind : RunKind) (k : Call σ) : Option Binary64 → Prop
  | configured {configuration k₀} : kind = .configure → k.context.detecting = [] → ctl.Calls kind k₀ →
      ctl.Applies configuration k₀ → k₀.Leads k → Sees ctl kind k configuration.volts
  | monitored : kind = .monitor → Sees ctl kind k none
  | detecting : k.context.detecting ≠ [] → Sees ctl kind k none

/-- What the list of a configuration leads to sees the voltage of this configuration. -/
theorem Applies.sees {configuration : Configuration} {k₀ : Call σ} (h : ctl.Applies configuration k₀)
    (hcalls : ctl.Calls .configure k₀) (hleads : k₀.Leads k) : ctl.Sees .configure k k.context.volts := by
  have hroot : k₀.context.volts = configuration.volts ∧ k₀.context.detecting = [] := by
    cases h <;> exact ⟨rfl, rfl⟩
  rcases hleads.volts with ⟨hvolts, hdetecting⟩ | ⟨hvolts, hdetecting⟩
  · rw [hvolts, hroot.1]
    exact .configured rfl (hdetecting.trans hroot.2) hcalls h hleads
  · rw [hvolts]
    exact .detecting hdetecting

/-- What monitoring leads to sees no voltage. -/
theorem sees_of_monitoring {k₀ : Call σ} (hvolts : k₀.context.volts = none) (hleads : k₀.Leads k) :
    ctl.Sees .monitor k k.context.volts := by
  rcases hleads.volts with ⟨hsame, -⟩ | ⟨hnone, -⟩
  · rw [hsame, hvolts]
    exact .monitored rfl
  · rw [hnone]
    exact .monitored rfl

theorem Calls.sees (h : ctl.Calls kind k) (htask : ∀ id, k.task ≠ .presence id) :
    ctl.Sees kind k k.context.volts := by
  cases h with
  | @visit before place after k₀ _ hplaces hvisit hleads =>
    have hcalls : ctl.Calls kind k₀ := .visit hplaces hvisit .refl
    cases hvisit with
    | presence =>
      obtain ⟨hvolts, hdetecting⟩ := hleads.of_presence (htask place.2.id)
      rw [hvolts]
      exact .detecting hdetecting
    | own _ hown =>
      cases hown with
      | configuration hk => exact (Applies.device hplaces hk).sees hcalls hleads
      | monitoring => exact sees_of_monitoring rfl hleads
    | rails _ _ hrails =>
      obtain ⟨r, hr, t, hmakes⟩ := hrails.exists_rail
      cases hmakes with
      | configuration hk => exact (Applies.rail hplaces hr hk).sees hcalls hleads
      | monitoring => exact sees_of_monitoring rfl hleads

theorem Calls.held (h : ctl.Calls kind k) : k.context.held = [] := by
  cases h with
  | visit _ hvisit hleads => exact hleads.held.trans hvisit.held

/-- Whenever a run carries out a command that sets an output voltage, the command works on a device of the plant. It
takes its own voltage or else that of the configuration whose list is being carried out; while monitoring, and in a
presence detection, there is no other than its own. If voltage, exponent or encoding is not to be had, nothing is
written; otherwise, unless the bus is closed and cannot be opened, the two bytes are written, once, and to the register
that is meant for them. A command that is verified answers only if these bytes are read back, and else its fault tells
the device, the register, what was written and what was read. -/
theorem run_programs_vout (ctl : Controller σ) (kind : RunKind) {k : Call σ} {v : VoutCommand} (h : ctl.Calls kind k)
    (htask : k.task = .action (.setVout v)) :
    (∃ d, k.context.device = .ok d ∧ d ∈ ctl.plant.devices ∧ d.id = k.context.scope.device) ∧
      ctl.Sees kind k k.context.volts ∧
      ∃ r, k.context.SetsVout v k.state r ∧ k.outcome = (r.1.mapError (·.within (.action v.text)), r.2) := by
  obtain ⟨d, hdevice, -⟩ := h.placed.1.active
  have hfree : k.context.scope.device ∉ k.context.held := by rw [h.held]; exact List.not_mem_nil
  have hd : k.context.device = .ok d := Plant.device_eq_ok_iff.mpr hdevice
  obtain ⟨hmem, hid⟩ := Plant.device?_eq_some hdevice
  refine ⟨⟨d, hd, h.inside.1 ▸ hmem, hid⟩, h.sees fun id => by rw [htask]; nofun,
    k.context.setVout v k.state, Context.setVout_sets hd hfree v k.state, ?_⟩
  show k.context.carryOut k.task k.state = _
  rw [htask]
  show k.context.perform (.setVout v) k.state = _
  rw [Context.perform_of_single? rfl, Op.framed_apply]
  rfl

end Controller
end

/-! ### A supply of twelve volts -/

/-- A voltage that is left open is not refused. -/
theorem VoutCommand.open_valid : ∀ v ∈ (none : Option Binary64), v.IsVoltage :=
  fun v hv => absurd hv (Option.not_mem_none v)

/-- A command that leaves its voltage open, in units of a 512th of a volt, and is verified. -/
def openCommand : VoutCommand where
  volts := none
  exponent := some (-9)
  verify := true
  volts_valid := VoutCommand.open_valid
  exponent_valid := by
    rintro _ ⟨⟩
    decide

def twelveVolts : Binary64 := ⟨0x4028000000000000⟩

/-- A supply that is configured with twelve volts. -/
def programmed : Controller RegisterFile where
  plant :=
    ⟨[⟨"chassis", "",
      [{ id := "psu", isRegulator := true, inventoryPath := "", bus := RegisterFile.bus ⟨"i2c0", 0x40⟩,
         configuration := some ⟨some twelveVolts, ⟨.setVout openCommand, []⟩⟩ }]⟩], []⟩
  hardware := {}

/-- The supply is told the voltage of its configuration, which is 0x1800 of these units. -/
theorem programmed_twelveVolts : ∃ k : Call RegisterFile,
    programmed.Calls .configure k ∧ k.task = .action (.setVout openCommand) ∧
      programmed.Sees .configure k (some twelveVolts) ∧ k.outcome.1 = .ok true ∧
      k.state.Writes k.outcome.2 [⟨⟨"psu", none⟩, 0x21, [0x00, 0x18]⟩] := by
  have hfinds : (programmed.visitContext 0 {} "psu").resolvePresence "psu" { hardware := {}, presence := {} } =
      (.ok true, _) := (Context.resolvePresence_of_device rfl rfl).trans rfl
  have hplaces : programmed.plant.places = [] ++ programmed.plant.places := rfl
  have hcalls : programmed.Calls .configure _ := .visit hplaces (.own hfinds (.configuration rfl)) (.single .first)
  obtain ⟨-, hsees, -⟩ := programmed.run_programs_vout .configure hcalls rfl
  refine ⟨_, hcalls, rfl, hsees, ?_, ?_⟩
  · show (Context.perform _ _ _).1 = _
    rw [Context.perform_of_single? rfl]
    rfl
  · show State.Writes _ (Context.perform _ _ _).2 _
    rw [Context.perform_of_single? rfl]
    rfl

end PowerRails
