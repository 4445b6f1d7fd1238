import PowerRails.Proofs.Growth
import PowerRails.Proofs.Patch

/-! # Registers on a bench

What actions do to simulated buses, as far as registers and injected failures go. Whether a bus is open makes no
difference, since it is opened when it is needed, and an action that works on a register patches that register or
nothing. -/

namespace PowerRails

namespace RegisterFile

/-- The injected failure that a transfer meets. -/
def failure? (f : RegisterFile) (register : UInt8) : Option BusFault := f.faultOfAll.or (f.faults.get? register)

/-- The problem of a transfer on an open bus. -/
def problem? (failure : Option BusFault) (register : UInt8) (count : Nat) : Option BusProblem :=
  if count = 0 ∨ maxBlock < count then some (.invalidLength count) else failure.map (·.problem register)

/-- A transfer is logged before the bus looks whether it refuses it, and that makes no difference. -/
theorem refusal?_logged {f : RegisterFile} (h : f.isOpen = true) (op : BusOperation) (register : UInt8) (count : Nat) :
    (f.logged op).refusal? register count = problem? (f.failure? register) register count := by
  have hopen : (f.logged op).isOpen = true := h
  unfold refusal? problem?
  rw [hopen]
  rfl

/-- What is logged before a transfer, if the bus has to be opened for it. -/
def opening (f : RegisterFile) : List BusOperation := if f.isOpen then [] else [.opened]

/-- The register file of a bus that is open, or has been opened. -/
def opened (f : RegisterFile) : RegisterFile := { f with isOpen := true, log := f.log ++ f.opening }

theorem opened_of_isOpen {f : RegisterFile} (h : f.isOpen = true) : f.opened = f := by
  obtain ⟨_ | _⟩ := f
  · cases h
  · simp [opened, opening]

theorem opened_of_closed {f : RegisterFile} (h : f.isOpen = false) :
    f.opened = { f.logged .opened with isOpen := true } := by
  simp [opened, opening, h, logged]

end RegisterFile

namespace Bench

/-- What a register behind a bus holds. -/
def held (b : Bench) (name : String) (register : UInt8) : Option Bytes := (b.file name).register? register

/-- The failure that is injected for a register behind a bus. -/
def failure? (b : Bench) (name : String) (register : UInt8) : Option BusFault := (b.file name).failure? register

theorem file_insert (b : Bench) (name other : String) (f : RegisterFile) :
    Bench.file (b.insert name f) other = if other = name then f else b.file other := by
  unfold file
  rw [Table.get?_insert]
  split <;> rfl

/-- One register file of a bench has become `f`, and the others are as they were. -/
structure Turns (b : Bench) (name : String) (f : RegisterFile) (b' : Bench) : Prop where
  file : b'.file name = f
  elsewhere : ∀ other, other ≠ name → b'.get? other = b.get? other

theorem Turns.insert (b : Bench) (name : String) (f : RegisterFile) : b.Turns name f (b.insert name f) where
  file := by rw [file_insert, if_pos rfl]
  elsewhere _ h := Table.get?_insert_of_ne b h f

theorem Turns.trans {b b' b'' : Bench} {name : String} {f g : RegisterFile} (h : b.Turns name f b')
    (h' : b'.Turns name g b'') : b.Turns name g b'' where
  file := h'.file
  elsewhere other hother := (h'.elsewhere other hother).trans (h.elsewhere other hother)

end Bench

theorem Bench.bus_read {b : Bench} {name : String} {endpoint : Endpoint} {register : UInt8} {count : Nat}
    {answer : Except BusError Bytes} {f : RegisterFile}
    (h : (RegisterFile.bus endpoint).read register count (b.file name) = (answer, f)) :
    (Bench.bus name endpoint).read register count b = (answer, b.insert name f) := by
  simp only [bus, Bus.within, h]

theorem Bench.bus_write {b : Bench} {name : String} {endpoint : Endpoint} {register : UInt8} {data : Bytes}
    {answer : Except BusError Unit} {f : RegisterFile}
    (h : (RegisterFile.bus endpoint).write register data (b.file name) = (answer, f)) :
    (Bench.bus name endpoint).write register data b = (answer, b.insert name f) := by
  simp only [bus, Bus.within, h]

/-- Presence results, registers and injected failures stay as they are. -/
structure State.Keeps (s t : State Bench) : Prop where
  presence : t.presence = s.presence
  failure : ∀ name register, t.hardware.failure? name register = s.hardware.failure? name register
  held : ∀ name register, t.hardware.held name register = s.hardware.held name register

/-- One register may be patched, and everything else of this stays as it is. -/
structure State.Becomes (s t : State Bench) (name : String) (register : UInt8) (p : Option Patch) : Prop where
  presence : t.presence = s.presence
  failure : ∀ name register, t.hardware.failure? name register = s.hardware.failure? name register
  held : ∀ other r, t.hardware.held other r =
    if other = name ∧ r = register then Patch.contents p (s.hardware.held other r) else s.hardware.held other r

namespace State
variable {s t u : State Bench} {name : String} {register : UInt8} {p : Option Patch}

/-- A state with the same presence results and the same hardware keeps all of this. -/
theorem Keeps.of_eq (hpresence : t.presence = s.presence) (hhardware : t.hardware = s.hardware) : s.Keeps t where
  presence := hpresence
  failure _ _ := by rw [hhardware]
  held _ _ := by rw [hhardware]

theorem Keeps.refl (s : State Bench) : s.Keeps s := .of_eq rfl rfl

theorem Keeps.trans (h : s.Keeps t) (h' : t.Keeps u) : s.Keeps u where
  presence := h'.presence.trans h.presence
  failure name register := (h'.failure name register).trans (h.failure name register)
  held name register := (h'.held name register).trans (h.held name register)

theorem Keeps.becomes (h : s.Keeps t) (name : String) (register : UInt8) : s.Becomes t name register none where
  presence := h.presence
  failure := h.failure
  held other r := by
    rw [h.held]
    split <;> rfl

theorem Becomes.of_keeps (h : s.Keeps t) (h' : t.Becomes u name register p) : s.Becomes u name register p where
  presence := h'.presence.trans h.presence
  failure name register := (h'.failure name register).trans (h.failure name register)
  held other r := by rw [h'.held, h.held]

theorem Becomes.keeps (h : s.Becomes t name register p) (h' : t.Keeps u) : s.Becomes u name register p where
  presence := h'.presence.trans h.presence
  failure name register := (h'.failure name register).trans (h.failure name register)
  held other r := by rw [h'.held, h.held]

/-- Where nothing is patched everything is kept. -/
theorem Becomes.unpatched (h : s.Becomes t name register none) : s.Keeps t where
  presence := h.presence
  failure := h.failure
  held other r := by
    rw [h.held]
    split <;> rfl

/-- Of a patch only what it makes of the register matters. -/
theorem Becomes.congr {q : Option Patch} (h : s.Becomes t name register p)
    (hq : Patch.contents q (s.hardware.held name register) = Patch.contents p (s.hardware.held name register)) :
    s.Becomes t name register q where
  presence := h.presence
  failure := h.failure
  held other r := by
    rw [h.held]
    split
    · rename_i hplace
      rw [hplace.1, hplace.2, hq]
    · rfl

/-- A change of one register file that is none of its registers and failures. -/
theorem keeps_of_file (s : State Bench) (name : String) {f : RegisterFile} (activity : List Activity)
    (hfailure : f.failure? = (s.hardware.file name).failure?) (hheld : f.register? = (s.hardware.file name).register?) :
    s.Keeps { s with hardware := s.hardware.insert name f, activity } where
  presence := rfl
  failure other r := by
    simp only [Bench.failure?, Bench.file_insert]
    split
    · rename_i h
      rw [h, hfailure]
    · rfl
  held other r := by
    simp only [Bench.held, Bench.file_insert]
    split
    · rename_i h
      rw [h, hheld]
    · rfl

theorem keeps_logged (s : State Bench) (name : String) (op : BusOperation) (activity : List Activity) :
    s.Keeps { s with hardware := s.hardware.insert name ((s.hardware.file name).logged op), activity } :=
  s.keeps_of_file name activity rfl rfl

theorem becomes_written (s : State Bench) (name : String) (register : UInt8) (data : Bytes) (op : BusOperation)
    (activity : List Activity) :
    s.Becomes
      { s with
        hardware := s.hardware.insert name (((s.hardware.file name).logged op).setRegister register data), activity }
      name register (some (Patch.overwrite data)) where
  presence := rfl
  failure other r := by
    simp only [Bench.failure?, Bench.file_insert]
    split
    · rename_i h
      rw [h]
      rfl
    · rfl
  held other r := by
    simp only [Bench.held, Bench.file_insert, RegisterFile.register?]
    by_cases hother : other = name
    · subst hother
      rw [if_pos rfl]
      simp only [RegisterFile.setRegister, Table.get?_insert, true_and]
      split
      · exact congrArg some (Patch.apply_overwrite data _).symm
      · rfl
    · rw [if_neg hother, if_neg fun h => hother h.1]

end State

/-! ### Transfers -/

/-- How the registers that are reached from a context answer: they are of one register file, and whether and why a
transfer is refused depends on the injected failure that it meets. -/
structure Context.Line (c : Context Bench) (name : String) (refusal : Option BusFault → UInt8 → Nat → Option Fault) :
    Prop where
  read : ∀ {s register count}, refusal (s.hardware.failure? name register) register count = none →
    ∃ t, s.Keeps t ∧ c.readBlock register count s =
      (.ok (RegisterFile.sized count ((s.hardware.held name register).getD [])), t)
  readRefused : ∀ {s register count fault}, refusal (s.hardware.failure? name register) register count = some fault →
    ∃ t, s.Keeps t ∧ c.readBlock register count s = (.error fault, t)
  write : ∀ {s register} data, refusal (s.hardware.failure? name register) register data.length = none →
    ∃ t, s.Becomes t name register (some (Patch.overwrite data)) ∧ c.writeBlock register data s = (.ok (), t)
  writeRefused : ∀ {s register fault} data,
    refusal (s.hardware.failure? name register) register data.length = some fault →
    ∃ t, s.Keeps t ∧ c.writeBlock register data s = (.error fault, t)

namespace RegisterFile
variable {f : RegisterFile} {register : UInt8} (endpoint : Endpoint)

theorem read_of_none {count : Nat} (hopen : f.isOpen = true)
    (h : problem? (f.failure? register) register count = none) :
    (bus endpoint).read register count f =
      (.ok (sized count ((f.register? register).getD [])), f.logged (.read register count)) := by
  simp only [bus, refusal?_logged hopen, h]
  rfl

theorem read_of_some {count : Nat} {problem : BusProblem} (hopen : f.isOpen = true)
    (h : problem? (f.failure? register) register count = some problem) :
    (bus endpoint).read register count f = (.error ⟨endpoint, problem⟩, f.logged (.read register count)) := by
  simp only [bus, refusal?_logged hopen, h]

theorem write_of_none {data : Bytes} (hopen : f.isOpen = true)
    (h : problem? (f.failure? register) register data.length = none) :
    (bus endpoint).write register data f = (.ok (), (f.logged (.wrote register data)).setRegister register data) := by
  simp only [bus, refusal?_logged hopen, h]

theorem write_of_some {data : Bytes} {problem : BusProblem} (hopen : f.isOpen = true)
    (h : problem? (f.failure? register) register data.length = some problem) :
    (bus endpoint).write register data f = (.error ⟨endpoint, problem⟩, f.logged (.wrote register data)) := by
  simp only [bus, refusal?_logged hopen, h]

end RegisterFile

namespace Context
variable {c : Context Bench} {s : State Bench} {d : Device Bench} {name : String} {endpoint : Endpoint}

/-- An access finds the bus open, or opens it. -/
theorem access_of_bench {α : Type} (hd : c.device = .ok d) (hbus : d.bus = Bench.bus name endpoint)
    (hfree : d.id ∉ c.held) (register : UInt8) (request : Request) (step : Bus Bench → Transfer Bench α) :
    ∃ t, s.Keeps t ∧ s.hardware.Turns name (s.hardware.file name).opened t.hardware ∧
      c.access register request step s = c.transfer register request (step (Bench.bus name endpoint)) t := by
  have hisOpen : (Bench.bus name endpoint).isOpen s.hardware = (s.hardware.file name).isOpen := rfl
  rw [access_of_device hd, if_neg hfree, hbus, hisOpen]
  cases hopen : (s.hardware.file name).isOpen with
  | true =>
    rw [if_pos rfl]
    exact ⟨s, .refl s, ⟨(RegisterFile.opened_of_isOpen hopen).symm, fun _ _ => rfl⟩, rfl⟩
  | false =>
    rw [if_neg Bool.false_ne_true, RegisterFile.opened_of_closed hopen]
    exact ⟨_, s.keeps_of_file name (f := { (s.hardware.file name).logged .opened with isOpen := true })
      (s.activity ++ [c.accessed s.presence .connect none]) rfl rfl, .insert _ name _, rfl⟩

theorem transfer_of_ok {σ α : Type} (c : Context σ) {s : State σ} (register : UInt8) (request : Request)
    {step : Transfer σ α} {a : α} {h : σ} (hstep : step s.hardware = (.ok a, h)) :
    c.transfer register request step s =
      (.ok a, { s with hardware := h, activity := s.activity ++ [c.accessed s.presence request none] }) := by
  unfold transfer
  rw [hstep]

theorem transfer_of_error {σ α : Type} (c : Context σ) {s : State σ} (register : UInt8) (request : Request)
    {step : Transfer σ α} {e : BusError} {h : σ} (hstep : step s.hardware = (.error e, h)) :
    c.transfer register request step s =
      (.error (c.accessFault register e.text),
        { s with hardware := h, activity := s.activity ++ [c.accessed s.presence request (some e)] }) := by
  unfold transfer
  rw [hstep]

/-- The fault of a transfer that a bus refuses to carry. -/
def transferFault? (c : Context Bench) (endpoint : Endpoint) (failure : Option BusFault) (register : UInt8)
    (count : Nat) : Option Fault :=
  (RegisterFile.problem? failure register count).map fun problem =>
    c.accessFault register (BusError.text ⟨endpoint, problem⟩)

theorem line_of_bench (hd : c.device = .ok d) (hbus : d.bus = Bench.bus name endpoint) (hfree : d.id ∉ c.held) :
    c.Line name (c.transferFault? endpoint) where
  read {s register count} hok := by
    obtain ⟨t, hkeeps, hturns, haccess⟩ := access_of_bench (s := s) hd hbus hfree register (.read register count)
      fun bus => bus.read register count
    rw [← hkeeps.failure, transferFault?, Option.map_eq_none_iff] at hok
    have htransfer := c.transfer_of_ok register (.read register count)
      (Bench.bus_read (RegisterFile.read_of_none endpoint (hturns.file ▸ rfl) hok))
    rw [← hkeeps.held]
    exact ⟨_, hkeeps.trans (t.keeps_logged name _ _), haccess.trans htransfer⟩
  readRefused {s register count fault} hrefused := by
    obtain ⟨t, hkeeps, hturns, haccess⟩ := access_of_bench (s := s) hd hbus hfree register (.read register count)
      fun bus => bus.read register count
    rw [← hkeeps.failure] at hrefused
    obtain ⟨problem, hproblem, rfl⟩ := Option.map_eq_some_iff.mp hrefused
    have htransfer := c.transfer_of_error register (.read register count)
      (Bench.bus_read (RegisterFile.read_of_some endpoint (hturns.file ▸ rfl) hproblem))
    exact ⟨_, hkeeps.trans (t.keeps_logged name _ _), haccess.trans htransfer⟩
  write {s register} data hok := by
    obtain ⟨t, hkeeps, hturns, haccess⟩ := access_of_bench (s := s) hd hbus hfree register (.write register data)
      fun bus => bus.write register data
    rw [← hkeeps.failure, transferFault?, Option.map_eq_none_iff] at hok
    have htransfer := c.transfer_of_ok register (.write register data)
      (Bench.bus_write (RegisterFile.write_of_none endpoint (hturns.file ▸ rfl) hok))
    exact ⟨_, .of_keeps hkeeps (t.becomes_written name register data _ _), haccess.trans htransfer⟩
  writeRefused {s register fault} data hrefused := by
    obtain ⟨t, hkeeps, hturns, haccess⟩ := access_of_bench (s := s) hd hbus hfree register (.write register data)
      fun bus => bus.write register data
    rw [← hkeeps.failure] at hrefused
    obtain ⟨problem, hproblem, rfl⟩ := Option.map_eq_some_iff.mp hrefused
    have htransfer := c.transfer_of_error register (.write register data)
      (Bench.bus_write (RegisterFile.write_of_some endpoint (hturns.file ▸ rfl) hproblem))
    exact ⟨_, hkeeps.trans (t.keeps_logged name _ _), haccess.trans htransfer⟩

/-- A context whose device is missing, or whose bus is taken, reaches no registers. -/
theorem line_of_blocked (fault : UInt8 → Fault) (h : ∀ {α : Type} (register : UInt8) (request : Request)
    (step : Bus Bench → Transfer Bench α) (s : State Bench),
    c.access register request step s = (.error (fault register), s)) :
    c.Line name fun _ register _ => some (fault register) where
  read hok := nomatch hok
  readRefused {s register count _} hrefused := Option.some.inj hrefused ▸
    ⟨s, .refl s, h register (.read register count) (fun bus => bus.read register count) s⟩
  write _ hok := nomatch hok
  writeRefused {s register _} data hrefused := Option.some.inj hrefused ▸
    ⟨s, .refl s, h register (.write register data) (fun bus => bus.write register data) s⟩

/-- The active device, if there is one, is on the bench. -/
def OnBench (c : Context Bench) : Prop := ∀ d, c.device = .ok d → ∃ name endpoint, d.bus = Bench.bus name endpoint

theorem onBench_of_buses (c : Context Bench)
    (hbuses : ∀ d ∈ c.plant.devices, ∃ name endpoint, d.bus = Bench.bus name endpoint) : c.OnBench :=
  fun d hd => hbuses d (Plant.device?_eq_some (Plant.device_eq_ok_iff.mp hd)).1

/-- Contexts whose active device is the same one, on the bench, reach registers in the same way. -/
theorem OnBench.exists_lines (hbench : c.OnBench) :
    ∃ name refusal, ∀ d : Context Bench, d.plant = c.plant → d.scope = c.scope → d.held = c.held →
      d.Line name refusal := by
  have hdevice : ∀ d : Context Bench, d.plant = c.plant → d.scope = c.scope → d.device = c.device := by
    intro d hplant hscope
    rw [device, device, hplant, hscope]
  cases hd : c.device with
  | error fault =>
    refine ⟨"", _, fun d hplant hscope _ => line_of_blocked (fun _ => fault) fun register request step s => ?_⟩
    exact access_of_error ((hdevice d hplant hscope).trans hd) register request step s
  | ok e =>
    obtain ⟨name, endpoint, hbus⟩ := hbench e hd
    by_cases hheld : e.id ∈ c.held
    · refine ⟨"", _, fun d hplant hscope hsame => line_of_blocked
        (fun register => c.accessFault register "bus interface is already in use") fun register request step s => ?_⟩
      rw [access_of_device ((hdevice d hplant hscope).trans hd), if_pos (hsame ▸ hheld), accessFault, accessFault,
        hscope]
    · refine ⟨name, c.transferFault? endpoint, fun d hplant hscope hsame => ?_⟩
      have hfault : d.transferFault? endpoint = c.transferFault? endpoint := by
        unfold transferFault? accessFault
        rw [hscope]
      exact hfault ▸ line_of_bench ((hdevice d hplant hscope).trans hd) hbus (hsame ▸ hheld)

end Context

/-! ### Actions -/

/-- Something comes to an answer and may patch a register. -/
def Op.Changes {α : Type} (x : Op Bench α) (s : State Bench) (answer : Except Fault α) (name : String)
    (register : UInt8) (p : Option Patch) : Prop := ∃ t, x s = (answer, t) ∧ s.Becomes t name register p

namespace Context.Line
variable {c : Context Bench} {name : String} {refusal : Option BusFault → UInt8 → Nat → Option Fault}

/-- Reading a register and then something that always succeeds. -/
theorem reading {α : Type} (h : c.Line name refusal) {f : Bytes → Op Bench α} {g : Bytes → α}
    (hf : ∀ bytes s, ∃ t, s.Keeps t ∧ f bytes s = (.ok (g bytes), t)) (register : UInt8) (count : Nat)
    (s : State Bench) :
    (c.readBlock register count >>= f).Changes s
      ((refusal (s.hardware.failure? name register) register count).elim
        (.ok (g (RegisterFile.sized count ((s.hardware.held name register).getD [])))) .error) name register none := by
  unfold Op.Changes
  rw [Op.bind_apply]
  cases hrefusal : refusal (s.hardware.failure? name register) register count with
  | some fault =>
    obtain ⟨t, hkeeps, hread⟩ := h.readRefused hrefusal
    rw [hread]
    exact ⟨t, rfl, hkeeps.becomes name register⟩
  | none =>
    obtain ⟨t, hkeeps, hread⟩ := h.read hrefusal
    obtain ⟨u, hkeeps', hf'⟩ := hf (RegisterFile.sized count ((s.hardware.held name register).getD [])) t
    rw [hread]
    exact ⟨u, hf', (hkeeps.trans hkeeps').becomes name register⟩

theorem capture (h : c.Line name refusal) (b : BlockRead) (s : State Bench) :
    (c.captureBlock b).Changes s
      ((refusal (s.hardware.failure? name b.register) b.register b.count).elim (.ok true) .error)
      name b.register none :=
  h.reading (g := fun _ => true)
    (fun bytes s => ⟨(c.capture b.register bytes s).2, .of_eq rfl rfl, rfl⟩) b.register b.count s

theorem readSensor (h : c.Line name refusal) (r : SensorRead) (s : State Bench) :
    (c.readSensor r).Changes s
      ((refusal (s.hardware.failure? name r.register) r.register r.format.byteLength).elim (.ok true) .error)
      name r.register none := by
  refine h.reading (g := fun _ => true) (fun bytes s => ?_) r.register r.format.byteLength s
  rw [Op.bind_apply, Context.recordReading_apply]
  refine ⟨_, ?_, rfl⟩
  exact .of_eq rfl rfl

theorem logFinding (h : c.Line name refusal) {l : FindingLog} {b : BlockRead} (hb : l.capture = some b)
    (s : State Bench) :
    (c.logFinding l).Changes s
      ((refusal (s.hardware.failure? name b.register) b.register b.count).elim (.ok true) .error)
      name b.register none := by
  unfold Context.logFinding Context.bytesToLog
  rw [hb, bind_assoc]
  refine h.reading (g := fun _ => true) (fun bytes s => ?_) b.register b.count s
  exact ⟨(c.addFinding l.severity l.code (some bytes) l.message s).2, .of_eq rfl rfl, rfl⟩

theorem compareRegister (h : c.Line name refusal) {r : RegisterComparison} {value : Int}
    (hr : r.operand = .literal value) (s : State Bench) :
    (c.compareRegister r).Changes s
      ((refusal (s.hardware.failure? name r.register) r.register r.format.byteLength).elim
        (.ok (r.comparison.holds (r.format.decode
          (RegisterFile.sized r.format.byteLength ((s.hardware.held name r.register).getD [])) r.mask) value)) .error)
      name r.register none := by
  unfold Context.compareRegister
  rw [hr]
  exact h.reading (g := fun bytes => r.comparison.holds (r.format.decode bytes r.mask) value)
    (fun bytes s => ⟨s, .refl s, rfl⟩) r.register r.format.byteLength s

theorem writeRegister (h : c.Line name refusal) (w : RegisterWrite) (s : State Bench) :
    (c.writeRegister w).Changes s
      ((refusal (s.hardware.failure? name w.register) w.register w.data.length).elim (.ok true) .error) name w.register
      ((refusal (s.hardware.failure? name w.register) w.register w.data.length).elim (some w.patch) fun _ => none) := by
  unfold Op.Changes Context.writeRegister Context.bytesToWrite
  cases hmask : w.mask with
  | none =>
    rw [pure_bind, Op.bind_apply]
    cases hrefusal : refusal (s.hardware.failure? name w.register) w.register w.data.length with
    | some fault =>
      obtain ⟨t, hkeeps, hwrite⟩ := h.writeRefused w.data hrefusal
      rw [hwrite]
      exact ⟨t, rfl, hkeeps.becomes name w.register⟩
    | none =>
      obtain ⟨t, hbecomes, hwrite⟩ := h.write w.data hrefusal
      rw [hwrite]
      have hpatch : w.patch = Patch.overwrite w.data := by rw [RegisterWrite.patch, hmask]
      exact ⟨t, rfl, hpatch ▸ hbecomes⟩
  | some mask =>
    rw [bind_assoc, Op.bind_apply]
    cases hrefusal : refusal (s.hardware.failure? name w.register) w.register w.data.length with
    | some fault =>
      obtain ⟨t, hkeeps, hread⟩ := h.readRefused hrefusal
      rw [hread]
      exact ⟨t, rfl, hkeeps.becomes name w.register⟩
    | none =>
      obtain ⟨t, hkeeps, hread⟩ := h.read hrefusal
      have hlength : mask.length = w.data.length := w.mask_length mask hmask
      -- The bytes that are written back are as many as the data, so the bus carries them as it did the others.
      have hmerged := RegisterWrite.length_merge
        (RegisterFile.length_sized w.data.length ((s.hardware.held name w.register).getD [])) hlength
      rw [← hkeeps.failure, ← hmerged] at hrefusal
      obtain ⟨u, hbecomes, hwrite⟩ := h.write _ hrefusal
      rw [hread]
      dsimp only
      rw [pure_bind, Op.bind_apply, hwrite]
      refine ⟨u, rfl, (State.Becomes.of_keeps hkeeps hbecomes).congr (congrArg some ?_)⟩
      rw [RegisterWrite.patch, hmask, Patch.apply_overwrite, RegisterWrite.merge_sized hlength]

end Context.Line

/-- The word of an output-voltage command that tells the exponent. -/
def Context.voutWord {σ : Type} (c : Context σ) (v : VoutCommand) (exponent : Int) : Except Fault UInt16 :=
  match v.volts.or c.volts with
  | none => .error (.invalidAction Linear16.action "no volts value defined by the action or configuration")
  | some volts => Linear16.encode volts exponent

theorem Context.setVout_of_exponent {σ : Type} {v : VoutCommand} {exponent : Int} (hv : v.exponent = some exponent)
    (c : Context σ) :
    c.setVout v = Op.ofExcept (c.voutWord v exponent) >>= fun word =>
      c.writeBlock Linear16.commandRegister (Linear16.wordBytes word) >>= fun _ =>
        if v.verify then
          c.readBlock Linear16.commandRegister 2 >>= c.confirmWrite Linear16.commandRegister (Linear16.wordBytes word)
        else pure true := by
  unfold setVout voutWord voutExponent
  cases v.volts.or c.volts with
  | none => rfl
  | some volts =>
    rw [hv]
    rfl

namespace Context.Line
variable {c : Context Bench} {name : String} {refusal : Option BusFault → UInt8 → Nat → Option Fault}

theorem setVout (h : c.Line name refusal) {v : VoutCommand} {exponent : Int} (hv : v.exponent = some exponent)
    {word : UInt16} (hword : c.voutWord v exponent = .ok word) (s : State Bench) :
    (c.setVout v).Changes s
      ((refusal (s.hardware.failure? name Linear16.commandRegister) Linear16.commandRegister 2).elim (.ok true) .error)
      name Linear16.commandRegister
      ((refusal (s.hardware.failure? name Linear16.commandRegister) Linear16.commandRegister 2).elim
        (some (Patch.overwrite (Linear16.wordBytes word))) fun _ => none) := by
  unfold Op.Changes
  rw [Context.setVout_of_exponent hv, hword, Op.bind_apply, Op.ofExcept_apply]
  dsimp only
  rw [Op.bind_apply]
  cases hrefusal : refusal (s.hardware.failure? name Linear16.commandRegister) Linear16.commandRegister 2 with
  | some fault =>
    obtain ⟨t, hkeeps, hwrite⟩ := h.writeRefused (Linear16.wordBytes word) hrefusal
    rw [hwrite]
    exact ⟨t, rfl, hkeeps.becomes name Linear16.commandRegister⟩
  | none =>
    obtain ⟨t, hbecomes, hwrite⟩ := h.write (Linear16.wordBytes word) hrefusal
    rw [hwrite]
    dsimp only
    cases v.verify with
    | false => exact ⟨t, rfl, hbecomes⟩
    | true =>
      rw [← hbecomes.failure] at hrefusal
      obtain ⟨u, hkeeps, hread⟩ := h.read hrefusal
      have hheld : t.hardware.held name Linear16.commandRegister = some (Linear16.wordBytes word) := by
        rw [hbecomes.held, if_pos ⟨rfl, rfl⟩]
        exact congrArg some (Patch.apply_overwrite _ _)
      -- What was just written is read back as it is.
      have hback : RegisterFile.sized 2 ((some (Linear16.wordBytes word)).getD []) = Linear16.wordBytes word := rfl
      rw [hheld, hback] at hread
      refine ⟨u, ?_, hbecomes.keeps hkeeps⟩
      rw [if_pos rfl, Op.bind_apply, hread]
      show c.confirmWrite Linear16.commandRegister (Linear16.wordBytes word) (Linear16.wordBytes word) u = _
      unfold confirmWrite
      rw [if_pos rfl]
      rfl

end Context.Line
end PowerRails
