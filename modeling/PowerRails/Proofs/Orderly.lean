import PowerRails.Proofs.Discipline
import PowerRails.Proofs.Idempotence

/-! # Orderly runs

On simulated buses every single action keeps the protocol of each bus: the lengths of what it transfers are checked
when it is made, or are those of what it has just read. Visits, runs and whole histories of a controller keep the
protocol as well, whatever registers are set and failures injected in between, and closing all devices leaves no bus
open. -/

namespace PowerRails

/-! ### Single actions -/

namespace Plant.Upholds
variable {α : Type} {b : Bench} {c : Context Bench}

theorem weaken {p : Plant Bench} {answers expected : α → Prop} {x : Op Bench α} (hx : p.Upholds b answers x)
    (h : ∀ a, answers a → expected a) : p.Upholds b expected x :=
  fun s hs => ⟨(hx s hs).1, fun a ha => h a ((hx s hs).2 a ha)⟩

theorem operandValue (p : Plant Bench) (b : Bench) (operand : Operand) :
    p.Upholds b (fun _ => True) (Context.operandValue operand) := by
  cases operand with
  | literal value => exact .pure trivial
  | sensor name =>
    have state : p.Upholds b (fun _ => True) Op.state := of_quiet (fun _ => rfl) fun _ => rfl
    refine state.bind fun s _ => ?_
    cases Reading.latest? s.readings name with
    | none => exact .fail _
    | some value => exact .pure trivial

theorem addFinding (p : Plant Bench) (b : Bench) (c : Context Bench) (severity : Severity) (code : String)
    (captured : Option Bytes) (message : String) :
    p.Upholds b (fun _ => True) (c.addFinding severity code captured message) := of_quiet (fun _ => rfl) fun _ => rfl

theorem tellService (p : Plant Bench) (b : Bench) (c : Context Bench) (notice : Notice) :
    p.Upholds b (fun _ => True) (c.tellService notice) := by
  refine of_quiet (fun s => ?_) fun s => ?_ <;> rw [Context.tellService_apply]
  rw [Activity.accesses_append, Context.accesses_told, List.append_nil]

variable (hbuses : c.plant.OnBench)
include hbuses

theorem readBlock (register : UInt8) {count : Nat} (hpos : 0 < count) (hle : count ≤ maxBlock) :
    c.plant.Upholds b (fun bytes => bytes.length = count) (c.readBlock register count) :=
  access hbuses rfl (Bench.carries_read hpos hle) ⟨rfl, hpos, hle⟩ rfl

theorem readByte (register : UInt8) : c.plant.Upholds b (fun _ => True) (c.readByte register) :=
  access hbuses rfl Bench.carries_readByte ⟨rfl, Nat.one_pos, by decide⟩ rfl

theorem writeBlock (register : UInt8) {data : Bytes} (hpos : 0 < data.length) (hle : data.length ≤ maxBlock) :
    c.plant.Upholds b (fun _ => True) (c.writeBlock register data) :=
  access hbuses rfl (Bench.carries_write hpos hle) ⟨rfl, hpos, hle⟩ rfl

/-- A register value is at most four bytes. -/
theorem readValue (register : UInt8) (format : RegisterFormat) :
    c.plant.Upholds b (fun _ => True) (c.readBlock register format.byteLength) := by
  have hlength : 0 < format.byteLength ∧ format.byteLength ≤ maxBlock := by
    rw [RegisterFormat.byteLength]
    cases format.width <;> decide
  exact (readBlock hbuses register hlength.1 hlength.2).weaken fun _ _ => trivial

theorem writeRegister (w : RegisterWrite) : c.plant.Upholds b (fun _ => True) (c.writeRegister w) := by
  -- Under a mask, as many bytes are written as are read, which is as many as there are data.
  have bytes : c.plant.Upholds b (fun bytes => bytes.length = w.data.length) (c.bytesToWrite w) := by
    unfold Context.bytesToWrite
    cases hmask : w.mask with
    | none => exact .pure rfl
    | some mask =>
      exact (readBlock hbuses w.register w.data_pos w.data_le).bind fun current hcurrent =>
        .pure (RegisterWrite.length_merge hcurrent (w.mask_length mask hmask))
  refine bytes.bind fun data hdata => ?_
  exact (writeBlock hbuses w.register (hdata ▸ w.data_pos) (hdata ▸ w.data_le)).bind fun _ _ => .pure trivial

theorem captureBlock (r : BlockRead) : c.plant.Upholds b (fun _ => True) (c.captureBlock r) := by
  refine (readBlock hbuses r.register r.count_pos r.count_le).bind fun bytes _ => ?_
  have capture : c.plant.Upholds b (fun _ => True) (c.capture r.register bytes) :=
    of_quiet (fun _ => rfl) fun s => (Activity.accesses_append _ _).trans (List.append_nil _)
  exact capture.bind fun _ _ => .pure trivial

theorem readSensor (r : SensorRead) : c.plant.Upholds b (fun _ => True) (c.readSensor r) := by
  refine (readValue hbuses r.register r.format).bind fun bytes _ => ?_
  have reading : c.plant.Upholds b (fun _ => True) (Op.update fun s : State Bench =>
      { s with readings := s.readings ++
          [⟨c.scope.device, c.scope.rail, r.name, r.kind, r.format.decode bytes r.format.fullMask⟩] }) :=
    of_quiet (fun _ => rfl) fun _ => rfl
  exact (reading.bind fun _ _ => tellService _ b c _).bind fun _ _ => .pure trivial

theorem logFinding (l : FindingLog) : c.plant.Upholds b (fun _ => True) (c.logFinding l) := by
  have bytes : c.plant.Upholds b (fun _ => True) (c.bytesToLog l) := by
    unfold Context.bytesToLog
    cases l.capture with
    | none => exact .pure trivial
    | some r => exact (readBlock hbuses r.register r.count_pos r.count_le).bind fun _ _ => .pure trivial
  exact bytes.bind fun _ _ => (addFinding _ b c _ _ _ _).bind fun _ _ => .pure trivial

/-- An output voltage is one word. -/
theorem setVout (v : VoutCommand) : c.plant.Upholds b (fun _ => True) (c.setVout v) := by
  have exponent : c.plant.Upholds b (fun _ => True) (c.voutExponent v) := by
    unfold Context.voutExponent
    cases v.exponent with
    | some e => exact .pure trivial
    | none => exact (readByte hbuses Linear16.modeRegister).bind fun _ _ => .ofExcept _
  unfold Context.setVout
  cases v.volts.or c.volts with
  | none => exact .fail _
  | some volts =>
    refine exponent.bind fun e _ => (ofExcept _).bind fun word _ => ?_
    have hlength : (Linear16.wordBytes word).length = 2 := rfl
    have hword : 0 < (Linear16.wordBytes word).length ∧ (Linear16.wordBytes word).length ≤ maxBlock := by
      rw [hlength]
      decide
    refine (writeBlock hbuses Linear16.commandRegister hword.1 hword.2).bind fun _ _ => ?_
    cases v.verify with
    | false => exact .pure trivial
    | true =>
      refine (readBlock hbuses Linear16.commandRegister hword.1 hword.2).bind fun actual _ => ?_
      unfold Context.confirmWrite
      split
      · exact .pure trivial
      · exact .fail _

theorem single {a : Action} {x : Op Bench Bool} (hx : c.single? a = some x) :
    c.plant.Upholds b (fun _ => True) x := by
  cases a with
  | compareRegister r =>
    cases hx
    exact (readValue hbuses r.register r.format).bind fun _ _ => (operandValue _ b _).bind fun _ _ => .pure trivial
  | writeRegister w =>
    cases hx
    exact writeRegister hbuses w
  | capture r =>
    cases hx
    exact captureBlock hbuses r
  | readSensor r =>
    cases hx
    exact readSensor hbuses r
  | logFinding l =>
    cases hx
    exact logFinding hbuses l
  | setVout v =>
    cases hx
    exact setVout hbuses v
  | _ => cases hx

end Plant.Upholds

/-! ### Visits and runs -/

/-- A run beside itself, whose state keeps the protocol. -/
def orderly (p : Plant Bench) (b : Bench) : Likeness Bench Bench where
  may _ := True
  asks c d := c.plant = p ∧ c = d
  contexts c d := c.plant = p ∧ c = d
  hardware := Eq
  states s t := s.Orderly p b ∧ s = t

variable {p : Plant Bench} {b : Bench}

theorem Plant.Upholds.same {α : Type} {answers : α → Prop} {x : Op Bench α} (hx : p.Upholds b answers x) :
    (orderly p b).Same x x := by
  rintro s _ ⟨hs, rfl⟩
  exact ⟨rfl, (hx s hs).1, rfl⟩

theorem orderly_entryLaw (p : Plant Bench) (b : Bench) : (orderly p b).EntryLaw := by
  refine .of_same ?same ?inRule ?inDevice ?inRail ?addFinding
  case same =>
    rintro c _ ⟨-, rfl⟩
    exact ⟨rfl, rfl, rfl, rfl⟩
  case inRule =>
    rintro c _ id ⟨hplant, rfl⟩
    exact ⟨hplant, rfl⟩
  case inDevice =>
    rintro c _ dv r as ⟨hplant, rfl⟩ -
    exact ⟨hplant, rfl⟩
  case inRail =>
    rintro c _ r ⟨hplant, rfl⟩
    exact ⟨hplant, rfl⟩
  case addFinding =>
    rintro c _ severity code captured message ⟨-, rfl⟩
    exact (Plant.Upholds.addFinding p b c severity code captured message).same

theorem orderly_note {x : Activity} (hx : Activity.accesses [x] = []) :
    (orderly p b).Same (Op.note x) (Op.note x) := by
  have note : p.Upholds b (fun _ => True) (Op.note x) :=
    .of_quiet (fun _ => rfl) fun s => (Activity.accesses_append _ _).trans (by rw [hx, List.append_nil])
  exact note.same

theorem orderly_taskLaw (hbuses : p.OnBench) : (orderly p b).TaskLaw where
  toEntryLaw := orderly_entryLaw p b
  asks_of_contexts h := h
  closed _ := Plant.Closed.univ _
  known := by
    rintro c _ s _ id ⟨-, rfl⟩ - ⟨-, rfl⟩
    rfl
  detections := by
    rintro c _ id ⟨-, rfl⟩ -
    rfl
  detecting := by
    rintro c _ ⟨-, rfl⟩
    rfl
  detached := by
    rintro c _ id ⟨hplant, rfl⟩ -
    exact ⟨hplant, rfl⟩
  note _ _ := orderly_note rfl
  detectionVerdict {c d id} outcome _ _ := by
    cases outcome with
    | ok present => exact .pure present
    | error fault =>
      have finding (f : Finding) : p.Upholds b (fun _ => True) (Context.pushFinding f) :=
        .of_quiet (fun _ => rfl) fun _ => rfl
      exact (orderly_note rfl).bind fun _ => (finding _).same.bind fun _ => .pure false
  keepPresence := by
    rintro c _ id present ⟨-, rfl⟩ -
    have keep : p.Upholds b (fun _ => True) (c.keepPresence id present) := .of_quiet (fun _ => rfl) fun _ => rfl
    exact keep.same
  single := by
    rintro c _ a x y ⟨rfl, rfl⟩ - hx hy
    cases hx.symm.trans hy
    exact (Plant.Upholds.single hbuses hx).same

theorem orderly_visitLaw (hbuses : p.OnBench) : (orderly p b).VisitLaw where
  toTaskLaw := orderly_taskLaw hbuses
  withVolts := by
    rintro c _ volts ⟨hplant, rfl⟩
    exact ⟨hplant, rfl⟩
  startRail := by
    rintro c _ rail ⟨-, rfl⟩
    exact .startRail ⟨rfl, rfl, rfl, rfl⟩ rfl (fun notice => (Plant.Upholds.tellService p b c notice).same) rail
  endRail := by
    rintro c _ failed ⟨-, rfl⟩
    exact (Plant.Upholds.tellService p b c (.railEnded failed)).same
  log _ := orderly_note rfl

namespace Controller
variable {ctl : Controller Bench}

/-- A run keeps the protocol. -/
theorem run_keeps (hbuses : ctl.plant.OnBench) (kind : RunKind) :
    ctl.plant.Keeps ctl.hardware (Activity.accesses (ctl.run kind).2) (ctl.run kind).1.hardware := by
  rw [accesses_run]
  refine visitAll_induct (motive := fun p => ctl.plant.Keeps ctl.hardware (Activity.accesses p.activity) p.hardware)
    (.refl ctl.plant ctl.hardware) fun p place _ hp => ?_
  have horderly : State.Orderly ctl.plant p.hardware { hardware := p.hardware, presence := p.presence } :=
    .refl ctl.plant p.hardware
  obtain ⟨-, -, hvisit, -⟩ := (orderly_visitLaw hbuses).visit
    (c := ctl.visitContext ctl.cycles p.report.captures place.2.id) ⟨rfl, rfl⟩ kind (.refl place.2) trivial
    (fun _ _ => trivial) { chassis := place.1.id, device := place.2.id } ⟨horderly, rfl⟩
  obtain ⟨entries, hactivity⟩ := visitPlace_activity ctl kind ctl.cycles p place
  have hentries : Activity.accesses (entries.map Activity.log) = [] := by simp [Activity.accesses]
  rw [hactivity, Activity.accesses_append, Activity.accesses_append, hentries, List.append_nil, visitPlace_hardware]
  exact hp.trans hvisit

end Controller

/-! ### Closing -/

/-- A bench has become another one in which the buses of some devices are closed and no others have been opened. -/
structure Plant.Closes (p : Plant Bench) (ds : List (Device Bench)) (b b' : Bench) : Prop where
  keeps : p.Keeps b [] b'
  shut : ∀ name, (b.file name).isOpen = false → (b'.file name).isOpen = false
  closed : ∀ d ∈ ds, d.bus.isOpen b' = false

namespace Controller
variable {ctl : Controller Bench}

theorem closeDevice_closes {d : Device Bench} {name : String} {endpoint : Endpoint}
    (hbus : d.bus = Bench.bus name endpoint) (p : Plant Bench) (b : Bench) :
    p.Closes [d] b (closeDevice b d).1 ∧ (closeDevice b d).2 = [] := by
  have hisOpen : ∀ b', d.bus.isOpen b' = (b'.file name).isOpen := fun b' => by rw [hbus]; rfl
  have only {b' : Bench} (hclosed : (b'.file name).isOpen = false) : ∀ e ∈ [d], e.bus.isOpen b' = false :=
    fun e he => by rw [List.mem_singleton.mp he, hisOpen, hclosed]
  cases hopen : (b.file name).isOpen with
  | false =>
    have hleft : closeDevice b d = (b, []) := by rw [closeDevice, hisOpen, hopen, if_neg Bool.false_ne_true]
    rw [hleft]
    exact ⟨⟨.refl p b, fun _ h => h, only hopen⟩, rfl⟩
  | true =>
    let f : RegisterFile := { (b.file name).logged .closed with isOpen := false }
    have hleft : closeDevice b d = (b.insert name f, []) := by
      rw [closeDevice, hisOpen, hopen, if_pos rfl, hbus]
      rfl
    have hfollows : (b.file name).Follows f [.closed] := ⟨rfl, ⟨hopen, trivial⟩, rfl⟩
    rw [hleft]
    refine ⟨⟨.of_file (Bench.file_insert b name · f) hfollows rfl nofun, fun other hother => ?_, only ?_⟩, rfl⟩
    · rw [Bench.file_insert]
      split
      · rfl
      · exact hother
    · rw [Bench.file_insert, if_pos rfl]

/-- Devices are closed one after the other; the bus of one that was closed is not opened again by the others. -/
theorem foldl_closes (hbuses : ctl.plant.OnBench) (ds : List (Device Bench)) (b : Bench)
    (hsub : ds ⊆ ctl.plant.devices) :
    ∃ b', ctl.plant.Closes ds b b' ∧
      ds.foldl (fun (s : Bench × List Activity) d => ((closeDevice s.1 d).1, s.2 ++ (closeDevice s.1 d).2)) (b, []) =
        (b', []) := by
  induction ds generalizing b with
  | nil => exact ⟨b, ⟨.refl ctl.plant b, fun _ h => h, nofun⟩, rfl⟩
  | cons d ds ih =>
    obtain ⟨name, endpoint, hbus⟩ := hbuses d (hsub List.mem_cons_self)
    obtain ⟨hone, htold⟩ := closeDevice_closes hbus ctl.plant b
    obtain ⟨b', hrest, hfold⟩ := ih (closeDevice b d).1 fun e he => hsub (List.mem_cons_of_mem d he)
    refine ⟨b', ⟨hone.keeps.trans hrest.keeps, fun other hother => hrest.shut other (hone.shut other hother), ?_⟩, ?_⟩
    · intro e he
      rcases List.mem_cons.mp he with rfl | he
      · have hclosed := hone.closed e (List.mem_singleton_self e)
        rw [hbus] at hclosed ⊢
        exact hrest.shut name hclosed
      · exact hrest.closed e he
    · rw [List.foldl_cons, htold, List.append_nil]
      exact hfold

theorem closeDevices_closes (hbuses : ctl.plant.OnBench) :
    ctl.plant.Closes ctl.plant.devices ctl.hardware ctl.closeDevices.1.hardware ∧ ctl.closeDevices.2 = [] := by
  obtain ⟨b', hcloses, hfold⟩ := foldl_closes hbuses ctl.plant.devices ctl.hardware fun _ h => h
  have hleft : ctl.closeDevices = ({ ctl with hardware := b' }, []) := by
    unfold closeDevices
    exact congrArg (fun s : Bench × List Activity => ({ ctl with hardware := s.1 }, s.2)) hfold
  rw [hleft]
  exact ⟨hcloses, rfl⟩

end Controller

/-! ### Histories -/

/-- What is done to a register file from outside. -/
inductive Intervention where
  | setRegister (register : UInt8) (bytes : Bytes)
  | failRegister (register : UInt8) (fault : BusFault)
  | failAll (fault : BusFault)
  | clearFaults

/-- What an intervention does to the registers. -/
def Intervention.apply : Intervention → RegisterFile → RegisterFile
  | .setRegister register bytes, f => f.setRegister register bytes
  | .failRegister register fault, f => f.failRegister register fault
  | .failAll fault, f => f.failAll fault
  | .clearFaults, f => f.clearFaults

/-- Simulated hardware does nothing by itself but what it is made to do from outside. -/
def Event.Staged : Event Bench → Prop
  | .hardware change => ∃ name, ∃ i : Intervention, change = fun b => b.insert name (i.apply (b.file name))
  | _ => True

/-- What happens at a moment meets only failures that have been injected before, which are never that a bus is closed
or a length is wrong; and closing closes all buses, with nothing to tell. -/
structure Moment.Orderly (m : Moment Bench) : Prop where
  injected : ∀ step, m.event = .step step → ∀ a ∈ Activity.accesses (m.controller.act step).2,
    a.Injected m.controller.plant m.controller.hardware
  carried : ∀ step, m.event = .step step → ∀ a ∈ Activity.accesses (m.controller.act step).2,
    ∀ e, a.failure = some e → e.problem ≠ .notOpen ∧ ∀ count, e.problem ≠ .invalidLength count
  closing : m.event = .step .closeDevices → (m.controller.act .closeDevices).2 = [] ∧
    ∀ d ∈ m.controller.plant.devices, d.bus.isOpen (m.controller.act .closeDevices).1.hardware = false

namespace Controller
variable {ctl : Controller Bench}

/-- A call keeps the protocol. -/
theorem act_keeps (hbuses : ctl.plant.OnBench) (step : Step) :
    ctl.plant.Keeps ctl.hardware (Activity.accesses (ctl.act step).2) (ctl.act step).1.hardware := by
  cases step with
  | configure => exact run_keeps hbuses .configure
  | monitor => exact run_keeps hbuses .monitor
  | clearStreaks => exact .refl ctl.plant ctl.hardware
  | closeDevices =>
    obtain ⟨hcloses, htold⟩ := closeDevices_closes hbuses
    show ctl.plant.Keeps ctl.hardware (Activity.accesses ctl.closeDevices.2) ctl.closeDevices.1.hardware
    rw [htold]
    exact hcloses.keeps

/-- An event keeps the protocol of each bus. -/
theorem occur_follows (hbuses : ctl.plant.OnBench) {e : Event Bench} (he : e.Staged) (name : String) :
    ∃ made, (ctl.hardware.file name).Follows ((ctl.occur e).hardware.file name) made := by
  cases e with
  | step step => exact (act_keeps hbuses step).file name
  | settings => exact ⟨[], .of_same rfl rfl⟩
  | hardware change =>
    obtain ⟨touched, intervention, rfl⟩ := he
    refine ⟨[], ?_⟩
    show (ctl.hardware.file name).Follows (Bench.file (ctl.hardware.insert touched _) name) []
    rw [Bench.file_insert]
    split
    · rename_i h
      rw [h]
      cases intervention <;> exact .of_same rfl rfl
    · exact .of_same rfl rfl

theorem moment_orderly (hbuses : ctl.plant.OnBench) (e : Event Bench) : (Moment.mk ctl e).Orderly where
  injected step _ := (act_keeps hbuses step).injected
  carried step _ a ha failure hfailure := by
    obtain ⟨_, _, _, fault, -, -, -, -, hproblem⟩ := (act_keeps hbuses step).injected a ha failure hfailure
    rw [hproblem]
    cases fault <;> exact ⟨nofun, nofun⟩
  closing _ := by
    obtain ⟨hcloses, htold⟩ := closeDevices_closes hbuses
    exact ⟨htold, hcloses.closed⟩

/-- Whatever is called from outside, in whatever order and with whatever set and injected in between: what has been
attempted on each simulated bus since then keeps its protocol, from the state that the bus was in; and nothing that is
attempted fails but where a failure has been injected. -/
theorem occurs_orderly (ctl : Controller Bench) (hbuses : ctl.plant.OnBench) (es : List (Event Bench))
    (hes : ∀ e ∈ es, e.Staged) :
    (∀ name, ∃ made, (ctl.hardware.file name).Follows ((ctl.occurs es).hardware.file name) made) ∧
      ∀ m ∈ ctl.moments es, m.Orderly := by
  induction es using List.reverseRecOn with
  | nil => exact ⟨fun _ => ⟨[], .of_same rfl rfl⟩, nofun⟩
  | append_singleton es e ih =>
    obtain ⟨hfollows, hmoments⟩ := ih fun e he => hes e (List.mem_append_left _ he)
    have hplant := ctl.plant_occurs es
    rw [occurs_concat, moments_concat]
    refine ⟨fun name => ?_, fun m hm => ?_⟩
    · obtain ⟨made, hmade⟩ := hfollows name
      obtain ⟨more, hmore⟩ := occur_follows (hplant ▸ hbuses) (hes e List.mem_concat_self) name
      exact ⟨made ++ more, hmade.trans hmore⟩
    · rcases List.mem_append.mp hm with hm | hm
      · exact hmoments m hm
      · rw [List.mem_singleton.mp hm]
        exact moment_orderly (hplant ▸ hbuses) e

/-- Two supplies on one bus that is closed at first, which starts to fail after they have been configured. -/
theorem supplies_orderly :
    let es : List (Event Bench) :=
      [.step .configure, .hardware fun b => b.insert "i2c0" (Intervention.apply (.failAll .nack) (b.file "i2c0")),
        .step .monitor, .step .closeDevices]
    supplies.plant.OnBench ∧ (∀ e ∈ es, e.Staged) ∧
      BusOperation.Disciplined false ((supplies.occurs es).hardware.file "i2c0").log ∧
      ∀ m ∈ supplies.moments es, m.Orderly := by
  intro es
  have hbuses : supplies.plant.OnBench := fun d hd => by
    rcases List.mem_pair.mp hd with rfl | rfl <;> exact ⟨"i2c0", _, rfl⟩
  have hes : ∀ e ∈ es, e.Staged := by
    simp only [es, List.forall_mem_cons]
    exact ⟨trivial, ⟨"i2c0", .failAll .nack, rfl⟩, trivial, trivial, nofun⟩
  obtain ⟨hfollows, hmoments⟩ := occurs_orderly supplies hbuses es hes
  obtain ⟨made, hmade⟩ := hfollows "i2c0"
  have hlog : ((supplies.occurs es).hardware.file "i2c0").log = made := hmade.log
  exact ⟨hbuses, hes, hlog ▸ hmade.disciplined, hmoments⟩

end Controller
end PowerRails
