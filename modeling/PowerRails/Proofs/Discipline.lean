import PowerRails.Proofs.Debouncing
import PowerRails.Proofs.Likeness
import PowerRails.Proofs.Registers
import PowerRails.Proofs.Replay

/-! # Bus discipline

Simulated buses log everything that is attempted on them. What an engine does to them follows a protocol: a bus is
opened when it is closed, and for a transfer that comes next; it is closed when it is open; transfers are made while it
is open, and they are of a length that the bus carries. So a transfer can only fail where a failure was injected, and
that it fails changes nothing of the protocol. One access keeps the protocol as a whole, and from there it is carried
through actions, visits and runs. -/

namespace PowerRails

/-! ### Logs -/

namespace BusOperation

/-- Whether bytes are asked for or given. -/
def isTransfer : BusOperation → Bool
  | .read .. => true
  | .wrote .. => true
  | _ => false

/-- Whether a bus is open after an operation. -/
def leaves (isOpen : Bool) : BusOperation → Bool
  | .opened => true
  | .closed => false
  | _ => isOpen

/-- An operation is in place on a bus that is open or is not, with some operations right after it. -/
def InPlace (isOpen : Bool) (rest : List BusOperation) : BusOperation → Prop
  | .opened => isOpen = false ∧ ∃ next, rest.head? = some next ∧ next.isTransfer = true
  | .closed => isOpen = true
  | .read _ count => isOpen = true ∧ 0 < count ∧ count ≤ maxBlock
  | .wrote _ data => isOpen = true ∧ 0 < data.length ∧ data.length ≤ maxBlock

/-- Whether a bus is open after some operations. -/
def openAfter (isOpen : Bool) (ops : List BusOperation) : Bool := ops.foldl leaves isOpen

/-- From a bus that is open or is not, every operation is in place. -/
def Disciplined : Bool → List BusOperation → Prop
  | _, [] => True
  | isOpen, op :: ops => op.InPlace isOpen ops ∧ Disciplined (op.leaves isOpen) ops

variable {isOpen : Bool} {op : BusOperation} {ops rest more : List BusOperation}

/-- What comes later does not displace an operation. -/
theorem InPlace.append (h : op.InPlace isOpen rest) : op.InPlace isOpen (rest ++ more) := by
  cases op with
  | opened =>
    obtain ⟨hclosed, next, hnext, htransfer⟩ := h
    exact ⟨hclosed, next, by rw [List.head?_append, hnext, Option.some_or], htransfer⟩
  | _ => exact h

theorem Disciplined.append (h : Disciplined isOpen ops) (h' : Disciplined (openAfter isOpen ops) more) :
    Disciplined isOpen (ops ++ more) := by
  induction ops generalizing isOpen with
  | nil => exact h'
  | cons op ops ih => exact ⟨h.1.append, ih h.2 h'⟩

theorem openAfter_append (isOpen : Bool) (ops more : List BusOperation) :
    openAfter isOpen (ops ++ more) = openAfter (openAfter isOpen ops) more := List.foldl_append

end BusOperation

/-- One register file has become another by operations that keep the protocol. -/
structure RegisterFile.Follows (f g : RegisterFile) (made : List BusOperation) : Prop where
  log : g.log = f.log ++ made
  disciplined : BusOperation.Disciplined f.isOpen made
  isOpen : g.isOpen = BusOperation.openAfter f.isOpen made

namespace RegisterFile
variable {f g h : RegisterFile} {made more : List BusOperation}

theorem Follows.of_same (hlog : g.log = f.log) (hopen : g.isOpen = f.isOpen) : f.Follows g [] where
  log := by rw [hlog, List.append_nil]
  disciplined := trivial
  isOpen := hopen

theorem Follows.trans (h₁ : f.Follows g made) (h₂ : g.Follows h more) : f.Follows h (made ++ more) where
  log := by rw [h₂.log, h₁.log, List.append_assoc]
  disciplined := h₁.disciplined.append (h₁.isOpen ▸ h₂.disciplined)
  isOpen := by rw [h₂.isOpen, h₁.isOpen, BusOperation.openAfter_append]

end RegisterFile

/-! ### Benches -/

/-- All devices are on simulated buses, which they may share. -/
def Plant.OnBench (p : Plant Bench) : Prop := ∀ d ∈ p.devices, ∃ name endpoint, d.bus = Bench.bus name endpoint

/-- The register that a request is about. -/
def Request.register? : Request → Option UInt8
  | .connect => none
  | .read register _ => some register
  | .readByte register => some register
  | .write register _ => some register

/-- If an access fails, it is a transfer of a register for which its bus has been told to fail, and fails in the way
that it has been told. -/
def Access.Injected (p : Plant Bench) (b : Bench) (a : Access) : Prop :=
  ∀ e, a.failure = some e → ∃ d name register fault, p.device? a.scope.device = some d ∧
    d.bus = Bench.bus name e.endpoint ∧ a.request.register? = some register ∧
    b.failure? name register = some fault ∧ e.problem = fault.problem register

/-- Of a bench, only the failures that it has been told matter. -/
theorem Access.Injected.of_failure {p : Plant Bench} {b b' : Bench} {a : Access} (h : a.Injected p b')
    (hfailure : ∀ name register, b'.failure? name register = b.failure? name register) : a.Injected p b := by
  intro e he
  obtain ⟨d, name, register, fault, hd, hbus, hregister, hfault, hproblem⟩ := h e he
  exact ⟨d, name, register, fault, hd, hbus, hregister, (hfailure name register).symm.trans hfault, hproblem⟩

/-- Some accesses lead from one bench to another: they keep the protocol of every bus, no injected failure is changed,
and there are no others that they meet. -/
structure Plant.Keeps (p : Plant Bench) (b : Bench) (made : List Access) (b' : Bench) : Prop where
  file : ∀ name, ∃ ops, (b.file name).Follows (b'.file name) ops
  failure : ∀ name register, b'.failure? name register = b.failure? name register
  injected : ∀ a ∈ made, a.Injected p b

namespace Plant.Keeps
variable {p : Plant Bench} {b b' b'' : Bench} {made more : List Access} {name : String} {f : RegisterFile}

theorem refl (p : Plant Bench) (b : Bench) : p.Keeps b [] b where
  file _ := ⟨[], .of_same rfl rfl⟩
  failure _ _ := rfl
  injected := nofun

theorem trans (h : p.Keeps b made b') (h' : p.Keeps b' more b'') : p.Keeps b (made ++ more) b'' where
  file name := by
    obtain ⟨ops, hops⟩ := h.file name
    obtain ⟨ops', hops'⟩ := h'.file name
    exact ⟨_, hops.trans hops'⟩
  failure name register := (h'.failure name register).trans (h.failure name register)
  injected a ha := by
    rcases List.mem_append.mp ha with ha | ha
    · exact h.injected a ha
    · exact (h'.injected a ha).of_failure h.failure

/-- One register file is used. -/
theorem of_file {ops : List BusOperation} (hfile : ∀ other, b'.file other = if other = name then f else b.file other)
    (hfollows : (b.file name).Follows f ops) (hfailure : f.failure? = (b.file name).failure?)
    (hmade : ∀ a ∈ made, a.Injected p b) : p.Keeps b made b' where
  file other := by
    rw [hfile]
    split
    · rename_i h
      exact ⟨ops, h ▸ hfollows⟩
    · exact ⟨[], .of_same rfl rfl⟩
  failure other register := by
    simp only [Bench.failure?, hfile]
    split
    · rename_i h
      rw [h, hfailure]
    · rfl
  injected := hmade

end Plant.Keeps

/-! ### Accesses -/

namespace RegisterFile
variable {f : RegisterFile} {register : UInt8} {α : Type}

theorem problem?_of_length (failure : Option BusFault) (register : UInt8) {count : Nat} (hpos : 0 < count)
    (hle : count ≤ maxBlock) : problem? failure register count = failure.map (·.problem register) :=
  if_neg fun h => by omega

/-- What an open bus makes of a transfer that it carries: it logs the transfer, stays open and keeps the failures that
it has been told, and meets no other failure. -/
structure Carries (endpoint : Endpoint) (register : UInt8) (f : RegisterFile) (op : BusOperation) (answers : α → Prop)
    (r : Except BusError α × RegisterFile) : Prop where
  log : r.2.log = f.log ++ [op]
  isOpen : r.2.isOpen = f.isOpen
  failure : r.2.failure? = f.failure?
  fails : ∀ e, r.1 = .error e →
    e.endpoint = endpoint ∧ ∃ fault, f.failure? register = some fault ∧ e.problem = fault.problem register
  answers : ∀ a, r.1 = .ok a → answers a

section
variable {endpoint : Endpoint} {op : BusOperation} {answers : α → Prop} {g : RegisterFile} {r : Except BusError α}

theorem leaves_of_isTransfer (htransfer : op.isTransfer = true) (isOpen : Bool) : op.leaves isOpen = isOpen := by
  cases op <;> first | rfl | cases htransfer

/-- A transfer on an open bus keeps the protocol. -/
theorem Carries.follows (h : Carries endpoint register f op answers (r, g)) (hopen : f.isOpen = true)
    (hplace : op.InPlace true []) (htransfer : op.isTransfer = true) : f.Follows g [op] where
  log := h.log
  disciplined := hopen ▸ ⟨hplace, trivial⟩
  isOpen := h.isOpen.trans (leaves_of_isTransfer htransfer _).symm

/-- Opening a closed bus for a transfer keeps the protocol. -/
theorem Carries.follows_opened
    (h : Carries endpoint register { f.logged .opened with isOpen := true } op answers (r, g))
    (hclosed : f.isOpen = false) (hplace : op.InPlace true []) (htransfer : op.isTransfer = true) :
    f.Follows g [.opened, op] where
  log := h.log.trans (List.append_assoc _ _ _)
  disciplined := hclosed ▸ ⟨⟨rfl, op, rfl, htransfer⟩, hplace, trivial⟩
  isOpen := h.isOpen.trans (leaves_of_isTransfer htransfer _).symm

end

theorem carries_read (endpoint : Endpoint) (hopen : f.isOpen = true) (register : UInt8) {count : Nat} (hpos : 0 < count)
    (hle : count ≤ maxBlock) :
    Carries endpoint register f (.read register count) (fun bytes : Bytes => bytes.length = count)
      ((bus endpoint).read register count f) := by
  have hproblem := problem?_of_length (f.failure? register) register hpos hle
  cases hf : f.failure? register with
  | none =>
    rw [hf, Option.map_none] at hproblem
    rw [read_of_none endpoint hopen (hf ▸ hproblem)]
    refine ⟨rfl, rfl, rfl, nofun, ?_⟩
    rintro _ ⟨⟩
    exact length_sized count _
  | some fault =>
    rw [hf, Option.map_some] at hproblem
    rw [read_of_some endpoint hopen (hf ▸ hproblem)]
    refine ⟨rfl, rfl, rfl, ?_, nofun⟩
    rintro _ ⟨⟩
    exact ⟨rfl, fault, hf, rfl⟩

theorem carries_write (endpoint : Endpoint) (hopen : f.isOpen = true) (register : UInt8) {data : Bytes}
    (hpos : 0 < data.length) (hle : data.length ≤ maxBlock) :
    Carries endpoint register f (.wrote register data) (fun _ : Unit => True)
      ((bus endpoint).write register data f) := by
  have hproblem := problem?_of_length (f.failure? register) register hpos hle
  cases hf : f.failure? register with
  | none =>
    rw [hf, Option.map_none] at hproblem
    rw [write_of_none endpoint hopen (hf ▸ hproblem)]
    exact ⟨rfl, rfl, rfl, nofun, fun _ _ => trivial⟩
  | some fault =>
    rw [hf, Option.map_some] at hproblem
    rw [write_of_some endpoint hopen (hf ▸ hproblem)]
    refine ⟨rfl, rfl, rfl, ?_, nofun⟩
    rintro _ ⟨⟩
    exact ⟨rfl, fault, hf, rfl⟩

end RegisterFile

/-- On an open bus of a bench, a transfer is carried as it is by the register file behind the bus. -/
def Bench.Carries {α : Type} (register : UInt8) (op : BusOperation) (answers : α → Prop)
    (step : Bus Bench → Transfer Bench α) : Prop :=
  ∀ name endpoint b, (b.file name).isOpen = true → ∃ f,
    (step (Bench.bus name endpoint) b).2 = b.insert name f ∧
      RegisterFile.Carries endpoint register (b.file name) op answers ((step (Bench.bus name endpoint) b).1, f)

namespace Bench
variable {register : UInt8}

theorem carries_read {count : Nat} (hpos : 0 < count) (hle : count ≤ maxBlock) :
    Bench.Carries register (.read register count) (fun bytes : Bytes => bytes.length = count)
      fun bus => bus.read register count := fun name endpoint b hopen => by
  have hcarries := RegisterFile.carries_read endpoint hopen register hpos hle
  rcases hread : (RegisterFile.bus endpoint).read register count (b.file name) with ⟨answer, f⟩
  rw [hread] at hcarries
  refine ⟨f, ?_, ?_⟩ <;> simp only [Bench.bus_read hread]
  exact hcarries

theorem carries_readByte :
    Bench.Carries register (.read register 1) (fun _ : UInt8 => True) fun bus => bus.readByte register :=
    fun name endpoint b hopen => by
  have hblock : Bench.Carries register (.read register 1) (fun bytes : Bytes => bytes.length = 1)
    fun bus => bus.read register 1 := carries_read Nat.one_pos (by decide)
  obtain ⟨f, hbench, hcarries⟩ := hblock name endpoint b hopen
  rcases hread : (Bench.bus name endpoint).read register 1 b with ⟨e | bytes, b'⟩
  · have hbyte : (Bench.bus name endpoint).readByte register b = (.error e, b') := by simp only [Bus.readByte, hread]
    simp only [hread] at hbench hcarries
    have hfails := hcarries.fails e rfl
    simp only [hbyte]
    refine ⟨f, hbench, hcarries.log, hcarries.isOpen, hcarries.failure, ?_, fun _ h => nomatch h⟩
    rintro _ ⟨⟩
    exact hfails
  · simp only [hread] at hbench hcarries
    obtain ⟨byte, rfl⟩ := List.length_eq_one_iff.mp (hcarries.answers bytes rfl)
    have hbyte : (Bench.bus name endpoint).readByte register b = (.ok byte, b') := by simp only [Bus.readByte, hread]
    simp only [hbyte]
    exact ⟨f, hbench, hcarries.log, hcarries.isOpen, hcarries.failure, (fun _ h => nomatch h), fun _ _ => trivial⟩

theorem carries_write {data : Bytes} (hpos : 0 < data.length) (hle : data.length ≤ maxBlock) :
    Bench.Carries register (.wrote register data) (fun _ : Unit => True) fun bus => bus.write register data :=
    fun name endpoint b hopen => by
  have hcarries := RegisterFile.carries_write endpoint hopen register hpos hle
  rcases hwrite : (RegisterFile.bus endpoint).write register data (b.file name) with ⟨answer, f⟩
  rw [hwrite] at hcarries
  refine ⟨f, ?_, ?_⟩ <;> simp only [Bench.bus_write hwrite]
  exact hcarries

end Bench

/-- What has been done since some bench keeps the protocol. -/
def State.Orderly (p : Plant Bench) (b : Bench) (s : State Bench) : Prop :=
  p.Keeps b (Activity.accesses s.activity) s.hardware

/-- An operation keeps the protocol that was kept before it, and answers as is told. -/
def Plant.Upholds {α : Type} (p : Plant Bench) (b : Bench) (answers : α → Prop) (x : Op Bench α) : Prop :=
  ∀ s, s.Orderly p b → (x s).2.Orderly p b ∧ ∀ a, (x s).1 = .ok a → answers a

namespace Plant.Upholds
variable {α β : Type} {p : Plant Bench} {b : Bench} {c : Context Bench} {answers : α → Prop} {expected : β → Prop}
  {x : Op Bench α} {f : α → Op Bench β}

theorem pure {a : α} (ha : answers a) : p.Upholds b answers (Pure.pure a) := by
  refine fun s hs => ⟨hs, ?_⟩
  rintro _ ⟨⟩
  exact ha

theorem fail (fault : Fault) : p.Upholds b answers (Op.fail fault) := fun _ hs => ⟨hs, nofun⟩

theorem ofExcept (r : Except Fault α) : p.Upholds b (fun _ => True) (Op.ofExcept r) :=
  fun _ hs => ⟨hs, fun _ _ => trivial⟩

theorem bind (hx : p.Upholds b answers x) (hf : ∀ a, answers a → p.Upholds b expected (f a)) :
    p.Upholds b expected (x >>= f) := fun s hs => by
  obtain ⟨hleft, hanswer⟩ := hx s hs
  rw [Op.bind_apply]
  rcases hxs : x s with ⟨fault | a, t⟩ <;> rw [hxs] at hleft hanswer
  · exact ⟨hleft, nofun⟩
  · exact hf a (hanswer a rfl) t hleft

/-- Something that neither accesses hardware nor changes it. -/
theorem of_quiet (hhardware : ∀ s, (x s).2.hardware = s.hardware)
    (haccesses : ∀ s, Activity.accesses (x s).2.activity = Activity.accesses s.activity) :
    p.Upholds b (fun _ => True) x := fun s hs => by
  refine ⟨?_, fun _ _ => trivial⟩
  unfold State.Orderly
  rw [hhardware, haccesses]
  exact hs

/-! #### Accesses -/

section
variable {op : BusOperation} {register : UInt8} {request : Request} {step : Bus Bench → Transfer Bench α}
  {d : Device Bench} {name : String} {endpoint : Endpoint} {s : State Bench}

/-- A transfer on an open bus uses one register file and is noted as one access. -/
theorem transfer_uses (hd : c.plant.device? c.scope.device = some d) (hbus : d.bus = Bench.bus name endpoint)
    (hregister : request.register? = some register) (hcarries : Bench.Carries register op answers step)
    (hopen : (s.hardware.file name).isOpen = true) :
    ∃ f answer a, (c.transfer register request (step d.bus) s).2.hardware = s.hardware.insert name f ∧
      Activity.accesses (c.transfer register request (step d.bus) s).2.activity =
        Activity.accesses s.activity ++ [a] ∧
      RegisterFile.Carries endpoint register (s.hardware.file name) op answers (answer, f) ∧
      a.Injected c.plant s.hardware ∧
      ∀ x, (c.transfer register request (step d.bus) s).1 = .ok x → answers x := by
  obtain ⟨f, hbench, hfile⟩ := hcarries name endpoint s.hardware hopen
  rw [← hbus] at hbench hfile
  rcases hstep : step d.bus s.hardware with ⟨e | x, b'⟩ <;> simp only [hstep] at hbench hfile
  · obtain ⟨hendpoint, fault, hfailure, hproblem⟩ := hfile.fails e rfl
    rw [c.transfer_of_error register request hstep]
    refine ⟨f, _, _, hbench, Activity.accesses_append _ _, hfile, ?_, nofun⟩
    rintro _ ⟨⟩
    exact ⟨d, name, register, fault, hd, hendpoint ▸ hbus, hregister, hfailure, hproblem⟩
  · rw [c.transfer_of_ok register request hstep]
    refine ⟨f, _, _, hbench, Activity.accesses_append _ _, hfile, nofun, ?_⟩
    rintro _ ⟨⟩
    exact hfile.answers x rfl

/-- An access opens the bus if it is closed, and then makes one transfer. -/
theorem access (hbuses : c.plant.OnBench) (hregister : request.register? = some register)
    (hcarries : Bench.Carries register op answers step) (hplace : op.InPlace true [])
    (htransfer : op.isTransfer = true) :
    c.plant.Upholds b answers (c.access register request step) := fun s hs => by
  cases hd : c.device with
  | error fault =>
    rw [Context.access_of_error hd]
    exact ⟨hs, nofun⟩
  | ok d =>
    have hd? := Plant.device_eq_ok_iff.mp hd
    obtain ⟨name, endpoint, hbus⟩ := hbuses d (Plant.device?_eq_some hd?).1
    have hisOpen : d.bus.isOpen s.hardware = (s.hardware.file name).isOpen := by rw [hbus]; rfl
    rw [Context.access_of_device hd, hisOpen]
    split
    · exact ⟨hs, nofun⟩
    · split
      · rename_i hopen
        obtain ⟨f, answer, a, hhardware, haccesses, hfile, ha, hanswers⟩ :=
          transfer_uses hd? hbus hregister hcarries hopen
        refine ⟨?_, hanswers⟩
        unfold State.Orderly
        rw [haccesses, hhardware]
        exact hs.trans (.of_file (Bench.file_insert _ name · f) (hfile.follows hopen hplace htransfer) hfile.failure
          fun x hx => List.mem_singleton.mp hx ▸ ha)
      · rename_i hclosed
        -- Opening logs an operation that is only in place with the transfer right after it.
        let opened : RegisterFile := { (s.hardware.file name).logged .opened with isOpen := true }
        let t : State Bench := { s with
          hardware := s.hardware.insert name opened
          activity := s.activity ++ [c.accessed s.presence .connect none] }
        have hconnect : c.transfer register .connect d.bus.connect s = (.ok (), t) :=
          c.transfer_of_ok register .connect (by rw [hbus]; rfl)
        have hopened : t.hardware.file name = opened := (Bench.file_insert _ _ _ _).trans (if_pos rfl)
        obtain ⟨f, answer, a, hhardware, haccesses, hfile, ha, hanswers⟩ :=
          transfer_uses (s := t) hd? hbus hregister hcarries (by rw [hopened])
        rw [hopened] at hfile
        rw [Op.bind_of_ok hconnect]
        refine ⟨?_, hanswers⟩
        unfold State.Orderly
        rw [haccesses, hhardware, Activity.accesses_append, List.append_assoc]
        refine hs.trans (.of_file (fun other => ?_)
          (hfile.follows_opened (eq_false_of_ne_true hclosed) hplace htransfer) hfile.failure fun x hx => ?_)
        · simp only [t, Bench.file_insert]
          split <;> rfl
        · rcases List.mem_pair.mp hx with rfl | rfl
          · exact nofun
          · exact ha.of_failure (s.keeps_of_file name (f := opened) t.activity rfl rfl).failure

end
end Plant.Upholds
end PowerRails
