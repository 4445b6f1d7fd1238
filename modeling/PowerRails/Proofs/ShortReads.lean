import PowerRails.Bus.Simulated
import PowerRails.Proofs.Writes

/-! # Short reads

A bus may answer a read with fewer bytes than it was asked for. Actions that read a block do not count what they are
given: a comparison and a sensor see zeros in place of the bytes that are missing, a masked write writes as many bytes
as it has got, and captured bytes are kept as they are. Such an action comes to nothing only if it fails for another
reason. A single byte that is missing is noticed where it is read, and is the end of the command that asked for it. -/

namespace PowerRails

/-! ### Bytes that are missing -/

theorem RegisterFormat.littleEndian_replicate_zero (n : Nat) : littleEndian (List.replicate n 0) = 0 := by
  induction n with
  | zero => rfl
  | succ n ih =>
    rw [List.replicate_succ, littleEndian, ih]
    rfl

theorem RegisterFormat.littleEndian_append_zeros (bytes : Bytes) (n : Nat) :
    littleEndian (bytes ++ List.replicate n 0) = littleEndian bytes := by
  induction bytes with
  | nil => exact littleEndian_replicate_zero n
  | cons b bytes ih => rw [List.cons_append, littleEndian, littleEndian, ih]

/-- Bytes that are missing are read as zeros. -/
theorem RegisterFormat.decode_sized (f : RegisterFormat) (bytes : Bytes) (mask : Nat) :
    f.decode (RegisterFile.sized f.byteLength bytes) mask = f.decode bytes mask := by
  have hall : (RegisterFile.sized f.byteLength bytes).take f.byteLength = RegisterFile.sized f.byteLength bytes :=
    List.take_of_length_le (Nat.le_of_eq (RegisterFile.length_sized ..))
  unfold decode
  rw [hall, RegisterFile.sized, littleEndian_append_zeros]

/-- No more bytes are merged than there are to merge with. -/
theorem RegisterWrite.length_merge_of_short {w : RegisterWrite} {mask bytes : Bytes} (hmask : w.mask = some mask)
    (hshort : bytes.length < w.data.length) : (merge bytes w.data mask).length = bytes.length := by
  have hlength : mask.length = w.data.length := w.mask_length mask hmask
  rw [merge, List.length_zipWith, List.length_zip, hlength]
  omega

section
variable {σ : Type}

/-- An action has failed with nothing written and nothing recorded. -/
structure State.Declined (s : State σ) (r : Except Fault Bool × State σ) : Prop where
  fault : ∃ f, r.1 = .error f
  writes : s.Writes r.2 []
  records : s.KeepsRecords r.2

namespace Context
variable {c : Context σ} {s t : State σ} {a : Action} {register : UInt8} {count : Nat} {bytes : Bytes}

/-- After its read an action fails all the same: a comparison with a sensor that has not been read, and a write for
which the bus cannot be opened. -/
inductive FailsAnyway (c : Context σ) (t : State σ) : Action → Prop
  | unread {r name} : r.operand = .sensor name → Reading.latest? t.readings name = none →
      FailsAnyway c t (.compareRegister r)
  | unopened {w} : c.CannotOpen t → FailsAnyway c t (.writeRegister w)

/-- What an action does with some bytes that it has read, if there are fewer than it asked for. -/
inductive TakesForData (c : Context σ) (bytes : Bytes) (t : State σ) : Action → Except Fault Bool × State σ → Prop
  /-- A comparison answers as if the bytes that are missing were zeros. -/
  | compared {r value} : operandValue r.operand t = (.ok value, t) →
      TakesForData c bytes t (.compareRegister r)
        (.ok (r.comparison.holds (r.format.decode (RegisterFile.sized r.format.byteLength bytes) r.mask) value), t)
  /-- A write of as many bytes as were read is attempted, and answers if that succeeds. -/
  | written {w mask} : w.mask = some mask → (RegisterWrite.merge bytes w.data mask).length = bytes.length →
      t.Writes (c.writeBlock w.register (RegisterWrite.merge bytes w.data mask) t).2
        [⟨c.scope, w.register, RegisterWrite.merge bytes w.data mask⟩] →
      TakesForData c bytes t (.writeRegister w)
        (Op.framed (.action w.text)
          (c.writeBlock w.register (RegisterWrite.merge bytes w.data mask) >>= fun _ => pure true) t)
  /-- A reading is kept as if the bytes that are missing were zeros. -/
  | sensed {r} :
      TakesForData c bytes t (.readSensor r)
        (.ok true, (c.recordReading r.name r.kind
          (r.format.decode (RegisterFile.sized r.format.byteLength bytes) r.format.fullMask) t).2)
  | captured {b} : TakesForData c bytes t (.capture b) (.ok true, (c.capture b.register bytes t).2)
  | logged {l} :
      TakesForData c bytes t (.logFinding l) (.ok true, (c.addFinding l.severity l.code (some bytes) l.message t).2)

/-- What takes bytes for data does not decline. -/
theorem TakesForData.not_declined {r : Except Fault Bool × State σ} (h : c.TakesForData bytes t a r)
    (hwrites : s.Writes t []) : ¬s.Declined r := fun hdeclined => by
  obtain ⟨fault, hfault⟩ := hdeclined.fault
  cases h with
  | @written w mask _ _ hwritten =>
    -- Whether or not the write succeeds, it is the last thing that is done.
    generalize RegisterWrite.merge bytes w.data mask = data at hwritten hdeclined
    have hlast : (Op.framed (.action w.text) (c.writeBlock w.register data >>= fun _ => pure true) t).2 =
        (c.writeBlock w.register data t).2 := by
      rw [Op.framed_apply, Op.state_bind_pure]
    have hnone := hdeclined.writes
    rw [hlast] at hnone
    cases hnone.unique (hwrites.trans hwritten)
  | _ => cases hfault

/-- A comparison looks up its operand after the read, and does not look at how many bytes there are. -/
theorem compareRegister_of_read {r : RegisterComparison}
    (hread : c.readBlock r.register r.format.byteLength s = (.ok bytes, t)) :
    (∃ name fault, r.operand = .sensor name ∧ Reading.latest? t.readings name = none ∧
        c.compareRegister r s = (.error fault, t)) ∨
      ∃ value, operandValue r.operand t = (.ok value, t) ∧
        c.compareRegister r s = (.ok (r.comparison.holds (r.format.decode bytes r.mask) value), t) := by
  rw [compareRegister, Op.bind_of_ok hread]
  cases hoperand : r.operand with
  | literal value => exact Or.inr ⟨value, rfl, rfl⟩
  | sensor name =>
    rw [operandValue, Op.bind_apply, Op.bind_apply, Op.state_apply]
    dsimp only
    cases hlatest : Reading.latest? t.readings name with
    | none => exact Or.inl ⟨name, _, rfl, hlatest, rfl⟩
    | some value => exact Or.inr ⟨value, rfl, rfl⟩

theorem short_read_outcome (hasks : c.Demands a s (.block register count) s) (hvout : ∀ v, a ≠ .setVout v)
    (hread : c.readBlock register count s = (.ok bytes, t)) (hshort : bytes.length < count) :
    (c.FailsAnyway t a ∧ s.Declined (c.perform a s)) ∨
      ¬c.FailsAnyway t a ∧ c.TakesForData bytes t a (c.perform a s) := by
  have hleft : (c.readBlock register count s).2 = t := congrArg Prod.snd hread
  have hwrites : s.Writes t [] := hleft ▸ c.readBlock_writes register count s
  have hsame : s.KeepsRecords t := hleft ▸ c.access_keepsRecords register _ _ s
  cases hasks with
  | @comparison r =>
    rw [perform_of_single? rfl]
    rcases compareRegister_of_read hread with ⟨name, fault, hname, hnone, hresult⟩ | ⟨value, hvalue, hresult⟩
    · rw [Op.framed_of_error hresult]
      exact .inl ⟨.unread hname hnone, ⟨_, rfl⟩, hwrites, hsame⟩
    · rw [Op.framed_of_ok hresult, ← r.format.decode_sized]
      refine .inr ⟨fun hfails => ?_, .compared hvalue⟩
      cases hfails with
      | unread hname hnone =>
        rw [hname, operandValue, Op.bind_apply, Op.state_apply] at hvalue
        simp only [hnone] at hvalue
        cases hvalue
  | @merging w mask _ hmask =>
    generalize hdata : RegisterWrite.merge bytes w.data mask = data
    have hbytes : c.bytesToWrite w s = (.ok data, t) := by
      rw [bytesToWrite, hmask, ← hdata]
      exact Op.bind_of_ok hread
    have hwrite : c.perform (.writeRegister w) s =
        Op.framed (.action w.text) (c.writeBlock w.register data >>= fun _ => pure true) t := by
      rw [perform_of_single? rfl, Op.framed_apply, writeRegister, Op.bind_of_ok hbytes]
      rfl
    obtain ⟨d, hd, hfree⟩ := device_of_access hread
    rw [hwrite]
    by_cases hclosed : c.CannotOpen t
    · obtain ⟨e, u, hfails, hnone⟩ := writeBlock_of_cannotOpen hfree hclosed w.register data
      have hafter : (c.writeBlock w.register data t).2 = u := congrArg Prod.snd hfails
      have hkept : t.KeepsRecords u := hafter ▸ c.access_keepsRecords w.register _ _ t
      rw [Op.framed_of_error (Op.bind_of_error hfails)]
      exact .inl ⟨.unopened hclosed, ⟨_, rfl⟩, hwrites.trans hnone, hsame.trans hkept⟩
    · refine .inr ⟨fun hfails => ?_, ?_⟩
      · cases hfails with
        | unopened hclosed' => exact hclosed hclosed'
      · have hwritten := writeBlock_writes hd hfree hclosed w.register data
        rw [← hdata] at hwritten ⊢
        exact .written hmask (RegisterWrite.length_merge_of_short hmask hshort) hwritten
  | @capture b =>
    have hresult : c.captureBlock b s = (.ok true, (c.capture b.register bytes t).2) := by
      rw [captureBlock, Op.bind_of_ok hread]
      rfl
    rw [perform_of_single? rfl, Op.framed_of_ok hresult]
    exact .inr ⟨nofun, .captured⟩
  | @reading r =>
    have hresult : c.readSensor r s = (.ok true,
        (c.recordReading r.name r.kind (r.format.decode bytes r.format.fullMask) t).2) := by
      rw [readSensor, Op.bind_of_ok hread, Op.bind_of_ok (recordReading_apply _ _ _), recordReading_apply]
      rfl
    rw [perform_of_single? rfl, Op.framed_of_ok hresult, ← r.format.decode_sized]
    exact .inr ⟨nofun, .sensed⟩
  | @logging l b _ hcapture =>
    have hbytes : c.bytesToLog l s = (.ok (some bytes), t) := by
      rw [bytesToLog, hcapture]
      exact Op.bind_of_ok hread
    have hresult : c.logFinding l s = (.ok true, (c.addFinding l.severity l.code (some bytes) l.message t).2) := by
      rw [logFinding, Op.bind_of_ok hbytes]
      rfl
    rw [perform_of_single? rfl, Op.framed_of_ok hresult]
    exact .inr ⟨nofun, .logged⟩
  | @verification v => exact absurd rfl (hvout v)

/-- When the read of an action answers with fewer bytes than it was asked for, the action declines exactly if it fails
anyway, for another reason. Otherwise it takes the bytes for data: it answers, records them, or attempts to write as
many bytes as there are. -/
theorem short_read_taken_for_data (hasks : c.Demands a s (.block register count) s) (hvout : ∀ v, a ≠ .setVout v)
    (hread : c.readBlock register count s = (.ok bytes, t)) (hshort : bytes.length < count) :
    (s.Declined (c.perform a s) ↔ c.FailsAnyway t a) ∧
      (¬c.FailsAnyway t a → c.TakesForData bytes t a (c.perform a s)) := by
  have hleft : (c.readBlock register count s).2 = t := congrArg Prod.snd hread
  have hwrites : s.Writes t [] := hleft ▸ c.readBlock_writes register count s
  rcases short_read_outcome hasks hvout hread hshort with ⟨hfails, hdeclined⟩ | ⟨hgoes, htakes⟩
  · exact ⟨⟨fun _ => hfails, fun _ => hdeclined⟩, fun hgoes => absurd hfails hgoes⟩
  · exact ⟨⟨fun hdeclined => absurd hdeclined (htakes.not_declined hwrites), fun hfails => absurd hfails hgoes⟩,
      fun _ => htakes⟩

end Context

/-! ### A single byte -/

/-- A byte that is missing is noticed where a single byte is read. -/
theorem Bus.readByte_of_short {b : Bus σ} {register : UInt8} {bytes : Bytes} {h h' : σ}
    (hread : b.read register 1 h = (.ok bytes, h')) (hshort : bytes.length < 1) :
    b.readByte register h =
      (.error ⟨b.endpoint, .transport s!"short read from register {Hex.byte register}"⟩, h') := by
  obtain rfl : bytes = [] := List.eq_nil_of_length_eq_zero (Nat.lt_one_iff.mp hshort)
  unfold readByte
  rw [hread]

namespace Context
variable {c : Context σ} {s t : State σ} {register : UInt8} {bytes : Bytes}

theorem transfer_readByte_of_short {b : Bus σ}
    (hread : c.transfer register (.read register 1) (b.read register 1) s = (.ok bytes, t))
    (hshort : bytes.length < 1) : ∃ fault u,
      c.transfer register (.readByte register) (b.readByte register) s = (.error fault, u) := by
  unfold transfer at hread ⊢
  rcases hstep : b.read register 1 s.hardware with ⟨e | answer, hardware⟩ <;> rw [hstep] at hread <;> cases hread
  rw [Bus.readByte_of_short hstep hshort]
  exact ⟨_, _, rfl⟩

/-- Where a block read of one byte answers with none, the read of a single byte fails. -/
theorem readByte_of_short (hread : c.readBlock register 1 s = (.ok bytes, t)) (hshort : bytes.length < 1) :
    ∃ fault u, c.readByte register s = (.error fault, u) := by
  -- Both reads open the bus in the same way, and ask it for the same byte.
  obtain ⟨d, hd, -⟩ := device_of_access hread
  rw [readBlock, access_of_device hd] at hread
  rw [readByte, access_of_device hd]
  by_cases hheld : d.id ∈ c.held
  · rw [if_pos hheld] at hread
    cases hread
  · rw [if_neg hheld] at hread ⊢
    by_cases hopen : d.bus.isOpen s.hardware = true
    · rw [if_pos hopen] at hread ⊢
      exact transfer_readByte_of_short hread hshort
    · rw [if_neg hopen] at hread ⊢
      rcases hconnect : c.transfer register .connect d.bus.connect s with ⟨fault | _, u⟩
      · rw [Op.bind_of_error hconnect] at hread
        cases hread
      · rw [Op.bind_of_ok hconnect] at hread ⊢
        exact transfer_readByte_of_short hread hshort

/-- A command that asks the device for its exponent and is given nothing declines, where an action that reads a block
takes what it is given for data. -/
theorem setVout_declines_of_short {v : VoutCommand} (hexponent : v.exponent = none)
    (hread : c.readBlock Linear16.modeRegister 1 s = (.ok bytes, t)) (hshort : bytes.length < 1) :
    s.Declined (c.perform (.setVout v) s) := by
  obtain ⟨fault, u, hbyte⟩ := readByte_of_short hread hshort
  have hleft : (c.readByte Linear16.modeRegister s).2 = u := congrArg Prod.snd hbyte
  have hwrites : s.Writes u [] := hleft ▸ c.readByte_writes Linear16.modeRegister s
  have hrecords : s.KeepsRecords u := hleft ▸ c.access_keepsRecords Linear16.modeRegister _ _ s
  have hasked : c.voutExponent v s = (.error fault, u) := by
    rw [voutExponent, hexponent]
    exact Op.bind_of_error hbyte
  rw [perform_of_single? rfl]
  cases hvolts : v.volts.or c.volts with
  | none =>
    have hresult : ∃ fault, c.setVout v s = (.error fault, s) := by
      rw [setVout, hvolts]
      exact ⟨_, rfl⟩
    obtain ⟨fault, hresult⟩ := hresult
    rw [Op.framed_of_error hresult]
    exact ⟨⟨_, rfl⟩, .refl s, rfl, rfl, rfl⟩
  | some volts =>
    have hresult : c.setVout v s = (.error fault, u) := by
      rw [setVout, hvolts]
      exact Op.bind_of_error hasked
    rw [Op.framed_of_error hresult]
    exact ⟨⟨_, rfl⟩, hwrites, hrecords⟩

end Context
end

/-! ### Half a word -/

/-- A supply whose bus answers every read with one byte, whatever it is asked for. -/
def halvingSupply : Device RegisterFile where
  id := "psu"
  isRegulator := true
  inventoryPath := ""
  bus :=
    let whole := RegisterFile.bus ⟨"i2c0", 0x40⟩
    { whole with read := fun register _ => whole.read register 1 }

def halvingContext : Context RegisterFile where
  plant := ⟨[⟨"chassis", "", [halvingSupply]⟩], []⟩
  cycle := 0
  maxRuleDepth := 30
  scope := ⟨"psu", none⟩

/-- The register holds a word. -/
def halvingState : State RegisterFile where
  hardware := { isOpen := true, registers := ⟨[(0x10, [0xAA, 0xBB])]⟩ }

/-- A comparison of a word with a number of one byte. -/
def wordComparison : RegisterComparison where
  register := 0x10
  format := ⟨.word, false⟩
  mask := 0xFFFF
  comparison := .equal
  operand := .literal 0xAA
  mask_pos := by decide
  mask_le := by decide
  operand_fits := rfl

/-- The word is 0xBBAA, but the comparison with 0xAA holds. -/
theorem halvingSupply_compared : ∃ t,
    halvingContext.Demands (.compareRegister wordComparison) halvingState (.block 0x10 2) halvingState ∧
      halvingContext.readBlock 0x10 2 halvingState = (.ok [0xAA], t) ∧
      ¬halvingState.Declined (halvingContext.perform (.compareRegister wordComparison) halvingState) ∧
      halvingContext.perform (.compareRegister wordComparison) halvingState = (.ok true, t) := by
  have hasks : halvingContext.Demands (.compareRegister wordComparison) halvingState (.block 0x10 2) halvingState :=
    .comparison
  have hread : halvingContext.readBlock 0x10 2 halvingState =
      (.ok [0xAA], (halvingContext.readBlock 0x10 2 halvingState).2) := rfl
  obtain ⟨hdeclined, htakes⟩ := Context.short_read_taken_for_data hasks (fun _ => nofun) hread (by decide)
  have hgoes : ¬halvingContext.FailsAnyway (halvingContext.readBlock 0x10 2 halvingState).2
      (.compareRegister wordComparison) := fun
    | .unread hname _ => nomatch hname
  refine ⟨_, hasks, hread, fun h => hgoes (hdeclined.mp h), ?_⟩
  generalize halvingContext.perform (.compareRegister wordComparison) halvingState = r at htakes
  cases htakes hgoes with
  | compared hvalue =>
    cases hvalue
    rfl

/-- A write of some bits of both bytes of a word. -/
def wordWrite : RegisterWrite where
  register := 0x10
  data := [0x03, 0x04]
  mask := some [0x0F, 0xFF]
  data_pos := by decide
  data_le := by decide
  mask_length := by
    rintro _ ⟨⟩
    rfl

/-- The write of a word asks for two bytes, is given one, and writes one without a fault. -/
theorem halvingSupply_written :
    halvingContext.Demands (.writeRegister wordWrite) halvingState (.block 0x10 2) halvingState ∧
      (halvingContext.readBlock 0x10 2 halvingState).1 = .ok [0xAA] ∧
      ¬halvingState.Declined (halvingContext.perform (.writeRegister wordWrite) halvingState) ∧
      (halvingContext.perform (.writeRegister wordWrite) halvingState).1 = .ok true ∧
      halvingState.Writes (halvingContext.perform (.writeRegister wordWrite) halvingState).2
        [⟨⟨"psu", none⟩, 0x10, [0xA3]⟩] := by
  have hanswer : (halvingContext.perform (.writeRegister wordWrite) halvingState).1 = .ok true := by
    rw [Context.perform_of_single? rfl]
    rfl
  refine ⟨.merging rfl, rfl, fun h => ?_, hanswer, ?_⟩
  · obtain ⟨fault, hfault⟩ := h.fault
    cases hanswer.symm.trans hfault
  · rw [Context.perform_of_single? rfl]
    rfl

end PowerRails
