import Mathlib.Data.List.DropRight
import PowerRails.Bus.Simulated

/-! # Shared register files

A simulated bus may be held by several handles: each is a clone of one before it, and all of them work on one register
file. Whatever has been done to the bus through any of its handles, in any order, the register file is settled by the
history: which operation opened or closed it last, what was last stored under each register, which failures were
injected since all were healed, and what was attempted since the log was cleared. A refused transfer leaves nothing but
its entry in the log. -/

namespace PowerRails

/-- What can be done to a simulated bus through one of its handles. -/
inductive BusCommand where
  | connect
  | disconnect
  | read (register : UInt8) (count : Nat)
  | write (register : UInt8) (data : Bytes)
  | readByte (register : UInt8)
  | writeByte (register : UInt8) (value : UInt8)
  | setRegister (register : UInt8) (bytes : Bytes)
  | failRegister (register : UInt8) (fault : BusFault)
  | failAll (fault : BusFault)
  | clearFaults
  | clearLog
deriving DecidableEq

/-- What comes of a command. -/
inductive Reply where
  | done
  | bytes (bytes : Bytes)
  | byte (value : UInt8)
  | refused (error : BusError)

namespace Reply

/-- The reply to a transfer. -/
def ofAnswer {α : Type} (reply : α → Reply) : Except BusError α → Reply
  | .ok a => reply a
  | .error e => .refused e

/-- A transfer with its answer as a reply. -/
def ofTransfer {α : Type} (reply : α → Reply) (t : Transfer RegisterFile α) (f : RegisterFile) : Reply × RegisterFile :=
  (ofAnswer reply (t f).1, (t f).2)

end Reply

open Reply (ofTransfer) in
/-- A command through a handle: the reply to it, and the register file after it. -/
def BusCommand.carriedOut (b : Bus RegisterFile) : BusCommand → RegisterFile → Reply × RegisterFile
  | connect => ofTransfer (fun _ => .done) b.connect
  | disconnect => ofTransfer (fun _ => .done) b.disconnect
  | read register count => ofTransfer .bytes (b.read register count)
  | write register data => ofTransfer (fun _ => .done) (b.write register data)
  | readByte register => ofTransfer .byte (b.readByte register)
  | writeByte register value => ofTransfer (fun _ => .done) (b.writeByte register value)
  | setRegister register bytes => fun f => (.done, f.setRegister register bytes)
  | failRegister register fault => fun f => (.done, f.failRegister register fault)
  | failAll fault => fun f => (.done, f.failAll fault)
  | clearFaults => fun f => (.done, f.clearFaults)
  | clearLog => fun f => (.done, f.clearLog)

/-- A command that has been issued through one of the handles, and the reply to it. -/
structure Issued where
  handle : Nat
  command : BusCommand
  reply : Reply

/-- The handles on one register file, by number. -/
structure SharedBus where
  handles : List Endpoint
  file : RegisterFile

/-- What can become of a simulated bus, with everything that has been issued until then: any handle may be cloned, and
any command issued through it. -/
inductive SharedBus.Reaches (endpoint : Endpoint) (isOpen : Bool) : List Issued → SharedBus → Prop where
  | fresh : Reaches endpoint isOpen [] ⟨[endpoint], { isOpen }⟩
  | cloned {history : List Issued} {s : SharedBus} (handle : Nat) {e : Endpoint} :
    Reaches endpoint isOpen history s → s.handles[handle]? = some e →
      Reaches endpoint isOpen history ⟨s.handles ++ [e], s.file⟩
  | issued {history : List Issued} {s : SharedBus} (handle : Nat) {e : Endpoint} (command : BusCommand) :
    Reaches endpoint isOpen history s → s.handles[handle]? = some e →
      Reaches endpoint isOpen
        (history ++ [⟨handle, command, (command.carriedOut (RegisterFile.bus e) s.file).1⟩])
        ⟨s.handles, (command.carriedOut (RegisterFile.bus e) s.file).2⟩

/-! ### Histories -/

namespace Issued

/-- Whether the interface is open after a command, if the command settles it. -/
def opens? (i : Issued) : Option Bool :=
  match i.command with
  | .connect => some true
  | .disconnect => some false
  | _ => none

/-- The bytes that are stored under a register, unless the write was refused. -/
def stores? (register : UInt8) (i : Issued) : Option Bytes :=
  match i.command, i.reply with
  | .setRegister r bytes, _ => if r = register then some bytes else none
  | .write r data, .done => if r = register then some data else none
  | .writeByte r value, .done => if r = register then some [value] else none
  | _, _ => none

/-- The failure that a command injects for a register. -/
def fails? (register : UInt8) (i : Issued) : Option BusFault :=
  match i.command with
  | .failRegister r fault => if r = register then some fault else none
  | _ => none

/-- The failure that a command injects for all registers. -/
def failsAll? (i : Issued) : Option BusFault :=
  match i.command with
  | .failAll fault => some fault
  | _ => none

/-- What is attempted, whatever comes of it. -/
def attempts? (i : Issued) : Option BusOperation :=
  match i.command with
  | .connect => some .opened
  | .disconnect => some .closed
  | .read register count => some (.read register count)
  | .write register data => some (.wrote register data)
  | .readByte register => some (.read register 1)
  | .writeByte register value => some (.wrote register [value])
  | _ => none

/-- A write that is attempted. -/
def writes? (i : Issued) : Option BusOperation :=
  match i.command with
  | .write register data => some (.wrote register data)
  | .writeByte register value => some (.wrote register [value])
  | _ => none

end Issued

/-- The register that a command reads. -/
def BusCommand.reads? : BusCommand → Option UInt8
  | .read register _ => some register
  | .readByte register => some register
  | _ => none

namespace History

/-- The latest of what some of the issued commands give. -/
def latest? {α : Type} (gives : Issued → Option α) (history : List Issued) : Option α :=
  (history.filterMap gives).getLast?

/-- What has been issued since the last command of this kind. -/
def since (command : BusCommand) (history : List Issued) : List Issued :=
  history.rtakeWhile (·.command ≠ command)

/-- Whether a bus that was open or closed at first is open now. -/
def isOpen (initially : Bool) (history : List Issued) : Bool := (latest? Issued.opens? history).getD initially

/-- What is stored under a register, if there ever was anything. -/
def stored? (history : List Issued) (register : UInt8) : Option Bytes := latest? (Issued.stores? register) history

/-- The injected failure of everything. -/
def faultOfAll? (history : List Issued) : Option BusFault := latest? Issued.failsAll? (since .clearFaults history)

/-- The injected failure of a register. -/
def fault? (history : List Issued) (register : UInt8) : Option BusFault :=
  latest? (Issued.fails? register) (since .clearFaults history)

/-- What was attempted since the log was last cleared. -/
def attempts (history : List Issued) : List BusOperation := (since .clearLog history).filterMap Issued.attempts?

/-- A transfer of a register goes through: the bus is open, the length is one that it carries, and no failure was
injected. -/
def Admits (initially : Bool) (history : List Issued) (register : UInt8) (count : Nat) : Prop :=
  isOpen initially history = true ∧ 1 ≤ count ∧ count ≤ 32 ∧ faultOfAll? history = none ∧
    fault? history register = none

/-- Why a transfer is refused. The first reason counts, and a failure of everything comes before one of a register. -/
def refusal? (initially : Bool) (history : List Issued) (register : UInt8) (count : Nat) : Option BusProblem :=
  if isOpen initially history = false then some .notOpen
  else if count = 0 ∨ 32 < count then some (.invalidLength count)
  else ((faultOfAll? history).or (fault? history register)).map (·.problem register)

theorem refusal?_eq_none_iff {initially : Bool} {history : List Issued} {register : UInt8} {count : Nat} :
    refusal? initially history register count = none ↔ Admits initially history register count := by
  unfold refusal? Admits
  cases isOpen initially history with
  | false => simp
  | true =>
    by_cases hlength : count = 0 ∨ 32 < count
    · simp only [Bool.true_eq_false, if_false, if_pos hlength, reduceCtorEq, true_and, false_iff]
      omega
    · simp only [Bool.true_eq_false, if_false, if_neg hlength, Option.map_eq_none_iff, Option.or_eq_none_iff, true_and]
      exact ⟨fun h => ⟨by omega, by omega, h⟩, fun h => h.2.2⟩

variable {α : Type} (gives : Issued → Option α) (history : List Issued) (i : Issued)

theorem latest?_concat : latest? gives (history ++ [i]) = (gives i).or (latest? gives history) := by
  unfold latest?
  cases h : gives i with
  | none => simp [h]
  | some a => simp [h]

theorem since_concat (command : BusCommand) :
    since command (history ++ [i]) = if i.command = command then [] else since command history ++ [i] := by
  unfold since
  rw [List.rtakeWhile_concat]
  simp

end History

/-! ### One command -/

namespace RegisterFile
variable (endpoint : Endpoint) (f : RegisterFile) (register : UInt8)

theorem read_eq (count : Nat) : (bus endpoint).read register count f =
    (match f.refusal? register count with
      | some problem => .error ⟨endpoint, problem⟩
      | none => .ok (sized count ((f.register? register).getD [])), f.logged (.read register count)) := by
  have hlogged : (f.logged (.read register count)).refusal? register count = f.refusal? register count := rfl
  have hstored : (f.logged (.read register count)).register? register = f.register? register := rfl
  cases hrefusal : f.refusal? register count <;> simp only [bus, hlogged, hstored, hrefusal]

theorem write_eq (data : Bytes) : (bus endpoint).write register data f =
    match f.refusal? register data.length with
      | some problem => (.error ⟨endpoint, problem⟩, f.logged (.wrote register data))
      | none => (.ok (), (f.logged (.wrote register data)).setRegister register data) := by
  have hlogged : (f.logged (.wrote register data)).refusal? register data.length =
    f.refusal? register data.length := rfl
  cases hrefusal : f.refusal? register data.length <;> simp only [bus, hlogged, hrefusal]

theorem readByte_eq : (bus endpoint).readByte register f =
    (match f.refusal? register 1 with
      | some problem => .error ⟨endpoint, problem⟩
      | none => .ok (((f.register? register).getD []).headD 0), f.logged (.read register 1)) := by
  unfold Bus.readByte
  rw [read_eq]
  cases f.refusal? register 1 with
  | some problem => rfl
  | none => cases (f.register? register).getD [] <;> rfl

end RegisterFile

/-- What an issued command makes of a register file. -/
structure Issued.Changes (i : Issued) (f g : RegisterFile) : Prop where
  isOpen : g.isOpen = i.opens?.getD f.isOpen
  register? : ∀ register, g.register? register = (i.stores? register).or (f.register? register)
  faultOfAll : g.faultOfAll = if i.command = .clearFaults then none else i.failsAll?.or f.faultOfAll
  fault? : ∀ register, g.faults.get? register =
    if i.command = .clearFaults then none else (i.fails? register).or (f.faults.get? register)
  log : g.log = if i.command = .clearLog then [] else f.log ++ i.attempts?.toList

namespace Issued.Changes
variable {i : Issued} {f g : RegisterFile}

/-- Only the log has been added to. -/
theorem of_logged {op : BusOperation} (hopens : i.opens? = none) (hstores : ∀ register, i.stores? register = none)
    (hall : i.failsAll? = none) (hfails : ∀ register, i.fails? register = none) (hattempts : i.attempts? = some op)
    (hfaults : i.command ≠ .clearFaults) (hlog : i.command ≠ .clearLog) : i.Changes f (f.logged op) where
  isOpen := by rw [hopens]; rfl
  register? register := by rw [hstores]; rfl
  faultOfAll := by rw [if_neg hfaults, hall]; rfl
  fault? register := by rw [if_neg hfaults, hfails]; rfl
  log := by rw [if_neg hlog, hattempts]; rfl

end Issued.Changes

theorem Table.get?_insert_or {κ α : Type} [DecidableEq κ] (t : Table κ α) (key other : κ) (value : α) :
    (t.insert key value).get? other = (if key = other then some value else none).or (t.get? other) := by
  rw [get?_insert]
  by_cases h : key = other
  · simp [h]
  · simp [h, Ne.symm h]

theorem BusCommand.changes (handle : Nat) (e : Endpoint) (command : BusCommand) (f : RegisterFile) :
    Issued.Changes ⟨handle, command, (command.carriedOut (RegisterFile.bus e) f).1⟩ f
      (command.carriedOut (RegisterFile.bus e) f).2 := by
  cases command with
  | connect => exact ⟨rfl, fun _ => rfl, rfl, fun _ => rfl, rfl⟩
  | disconnect => exact ⟨rfl, fun _ => rfl, rfl, fun _ => rfl, rfl⟩
  | read register count =>
    simp only [carriedOut, Reply.ofTransfer, RegisterFile.read_eq]
    exact .of_logged rfl (fun _ => rfl) rfl (fun _ => rfl) rfl nofun nofun
  | readByte register =>
    simp only [carriedOut, Reply.ofTransfer, RegisterFile.readByte_eq]
    exact .of_logged rfl (fun _ => rfl) rfl (fun _ => rfl) rfl nofun nofun
  | write register data =>
    simp only [carriedOut, Reply.ofTransfer, RegisterFile.write_eq]
    cases f.refusal? register data.length with
    | some problem => exact .of_logged rfl (fun _ => rfl) rfl (fun _ => rfl) rfl nofun nofun
    | none => exact ⟨rfl, fun other => f.registers.get?_insert_or register other data, rfl, fun _ => rfl, rfl⟩
  | writeByte register value =>
    simp only [carriedOut, Reply.ofTransfer, Bus.writeByte, RegisterFile.write_eq]
    cases f.refusal? register 1 with
    | some problem => exact .of_logged rfl (fun _ => rfl) rfl (fun _ => rfl) rfl nofun nofun
    | none => exact ⟨rfl, fun other => f.registers.get?_insert_or register other [value], rfl, fun _ => rfl, rfl⟩
  | setRegister register bytes =>
    exact ⟨rfl, fun other => f.registers.get?_insert_or register other bytes, rfl, fun _ => rfl, f.log.append_nil.symm⟩
  | failRegister register fault =>
    exact ⟨rfl, fun _ => rfl, rfl, fun other => f.faults.get?_insert_or register other fault, f.log.append_nil.symm⟩
  | failAll fault => exact ⟨rfl, fun _ => rfl, rfl, fun _ => rfl, f.log.append_nil.symm⟩
  | clearFaults => exact ⟨rfl, fun _ => rfl, rfl, fun _ => rfl, f.log.append_nil.symm⟩
  | clearLog => exact ⟨rfl, fun _ => rfl, rfl, fun _ => rfl, rfl⟩

/-! ### All commands until now -/

/-- A register file is as a history leaves it. -/
structure RegisterFile.Recalls (f : RegisterFile) (initially : Bool) (history : List Issued) : Prop where
  isOpen : f.isOpen = History.isOpen initially history
  register? : ∀ register, f.register? register = History.stored? history register
  faultOfAll : f.faultOfAll = History.faultOfAll? history
  fault? : ∀ register, f.faults.get? register = History.fault? history register
  log : f.log = History.attempts history

namespace RegisterFile.Recalls
variable {f g : RegisterFile} {initially : Bool} {history : List Issued} {i : Issued}

theorem concat (h : f.Recalls initially history) (hi : i.Changes f g) : g.Recalls initially (history ++ [i]) where
  isOpen := by
    rw [hi.isOpen, h.isOpen, History.isOpen, History.isOpen, History.latest?_concat]
    cases i.opens? <;> rfl
  register? register := by
    rw [hi.register?, h.register?, History.stored?, History.stored?, History.latest?_concat]
  faultOfAll := by
    rw [hi.faultOfAll, h.faultOfAll, History.faultOfAll?, History.faultOfAll?, History.since_concat]
    split
    · rfl
    · rw [History.latest?_concat]
  fault? register := by
    rw [hi.fault?, h.fault?, History.fault?, History.fault?, History.since_concat]
    split
    · rfl
    · rw [History.latest?_concat]
  log := by
    rw [hi.log, h.log, History.attempts, History.attempts, History.since_concat]
    split
    · rfl
    · rw [List.filterMap_append]
      cases hattempts : i.attempts? <;> simp [hattempts]

theorem refusal?_eq (h : f.Recalls initially history) (register : UInt8) (count : Nat) :
    f.refusal? register count = History.refusal? initially history register count := by
  unfold refusal? History.refusal?
  rw [h.isOpen, h.faultOfAll, h.fault?]
  cases History.isOpen initially history <;> rfl

theorem writes_eq (h : f.Recalls initially history) :
    f.writes = (History.since .clearLog history).filterMap Issued.writes? := by
  unfold writes
  rw [h.log, History.attempts, List.filter_filterMap]
  congr 1
  funext i
  obtain ⟨handle, command, reply⟩ := i
  cases command <;> rfl

theorem readCount_eq (h : f.Recalls initially history) (register : UInt8) :
    f.readCount register = (History.since .clearLog history).countP (·.command.reads? = some register) := by
  unfold readCount
  rw [h.log, History.attempts, List.countP_filterMap]
  congr 1
  funext i
  obtain ⟨handle, command, reply⟩ := i
  cases command <;> simp [Issued.attempts?, BusCommand.reads?, beq_eq_decide]

theorem totalReads_eq (h : f.Recalls initially history) :
    f.totalReads = (History.since .clearLog history).countP (·.command.reads?.isSome) := by
  unfold totalReads
  rw [h.log, History.attempts, List.countP_filterMap]
  congr 1
  funext i
  obtain ⟨handle, command, reply⟩ := i
  cases command <;> rfl

end RegisterFile.Recalls

/-- A handle answers as a history says. -/
structure History.Settles (initially : Bool) (history : List Issued) (b : Bus RegisterFile) (f : RegisterFile) :
    Prop where
  read : ∀ register count bytes, (b.read register count f).1 = .ok bytes ↔
    Admits initially history register count ∧ bytes = RegisterFile.sized count ((stored? history register).getD [])
  readByte : ∀ register value, (b.readByte register f).1 = .ok value ↔
    Admits initially history register 1 ∧ value = ((stored? history register).getD []).headD 0
  write : ∀ register data, (b.write register data f).1 = .ok () ↔ Admits initially history register data.length
  writeByte : ∀ register value, (b.writeByte register value f).1 = .ok () ↔ Admits initially history register 1
  readRefused : ∀ register count error, (b.read register count f).1 = .error error ↔
    ∃ problem, refusal? initially history register count = some problem ∧ error = ⟨b.endpoint, problem⟩
  writeRefused : ∀ register data error, (b.write register data f).1 = .error error ↔
    ∃ problem, refusal? initially history register data.length = some problem ∧ error = ⟨b.endpoint, problem⟩

theorem RegisterFile.Recalls.settles {f : RegisterFile} {initially : Bool} {history : List Issued}
    (h : f.Recalls initially history) (endpoint : Endpoint) :
    History.Settles initially history (RegisterFile.bus endpoint) f where
  read register count bytes := by
    rw [RegisterFile.read_eq, h.refusal?_eq, ← History.refusal?_eq_none_iff, h.register?]
    cases History.refusal? initially history register count <;> simp [eq_comm]
  readByte register value := by
    rw [RegisterFile.readByte_eq, h.refusal?_eq, ← History.refusal?_eq_none_iff, h.register?]
    cases History.refusal? initially history register 1 <;> simp [eq_comm]
  write register data := by
    rw [RegisterFile.write_eq, h.refusal?_eq, ← History.refusal?_eq_none_iff]
    cases History.refusal? initially history register data.length <;> simp
  writeByte register value := by
    rw [Bus.writeByte, RegisterFile.write_eq, h.refusal?_eq, ← History.refusal?_eq_none_iff]
    cases History.refusal? initially history register _ <;> simp
  readRefused register count error := by
    rw [RegisterFile.read_eq, h.refusal?_eq]
    cases History.refusal? initially history register count <;> simp [eq_comm, RegisterFile.bus]
  writeRefused register data error := by
    rw [RegisterFile.write_eq, h.refusal?_eq]
    cases History.refusal? initially history register data.length <;> simp [eq_comm, RegisterFile.bus]

/-- A refused command leaves the registers, the injected failures and whether the bus is open as they were. -/
theorem BusCommand.refused_unchanged {e : Endpoint} {command : BusCommand} {f g : RegisterFile} {error : BusError}
    (h : command.carriedOut (RegisterFile.bus e) f = (.refused error, g)) : ∃ op, g = f.logged op := by
  cases command with
  | read register count =>
    simp only [carriedOut, Reply.ofTransfer, RegisterFile.read_eq] at h
    exact ⟨_, (Prod.mk.inj h).2.symm⟩
  | readByte register =>
    simp only [carriedOut, Reply.ofTransfer, RegisterFile.readByte_eq] at h
    exact ⟨_, (Prod.mk.inj h).2.symm⟩
  | write register data =>
    simp only [carriedOut, Reply.ofTransfer, RegisterFile.write_eq] at h
    split at h
    · exact ⟨_, (Prod.mk.inj h).2.symm⟩
    · cases h
  | writeByte register value =>
    simp only [carriedOut, Reply.ofTransfer, Bus.writeByte, RegisterFile.write_eq] at h
    split at h
    · exact ⟨_, (Prod.mk.inj h).2.symm⟩
    · cases h
  | _ => cases h

theorem SharedBus.Reaches.recalls {endpoint : Endpoint} {initially : Bool} {history : List Issued} {s : SharedBus}
    (h : Reaches endpoint initially history s) :
    s.file.Recalls initially history ∧ ∀ e ∈ s.handles, e = endpoint := by
  induction h with
  | fresh => exact ⟨⟨rfl, fun _ => rfl, rfl, fun _ => rfl, rfl⟩, fun e he => List.mem_singleton.mp he⟩
  | cloned _ _ he ih =>
    obtain ⟨hfile, hhandles⟩ := ih
    refine ⟨hfile, fun e' he' => ?_⟩
    rcases List.mem_append.mp he' with hold | hnew
    · exact hhandles e' hold
    · obtain rfl := List.mem_singleton.mp hnew
      exact hhandles e' (List.mem_of_getElem? he)
  | @issued _ s handle e command _ _ ih => exact ⟨ih.1.concat (command.changes handle e s.file), ih.2⟩

/-- Whatever has been done to a bus through any of its handles, every handle answers as the history says, the register
file and its log are as the history leaves them, and a refused transfer changes nothing but the log. -/
theorem SharedBus.history_settles {endpoint : Endpoint} {initially : Bool} {history : List Issued} {s : SharedBus}
    (h : Reaches endpoint initially history s) :
    (∀ e ∈ s.handles, e = endpoint ∧ History.Settles initially history (RegisterFile.bus e) s.file ∧
      ∀ command error g, BusCommand.carriedOut (RegisterFile.bus e) command s.file = (.refused error, g) →
        g.registers = s.file.registers ∧ g.faults = s.file.faults ∧ g.faultOfAll = s.file.faultOfAll ∧
          g.isOpen = s.file.isOpen) ∧
    s.file.Recalls initially history ∧
    s.file.writes = (History.since .clearLog history).filterMap Issued.writes? ∧
    (∀ register, s.file.readCount register =
      (History.since .clearLog history).countP (·.command.reads? = some register)) ∧
    s.file.totalReads = (History.since .clearLog history).countP (·.command.reads?.isSome) := by
  obtain ⟨hfile, hhandles⟩ := h.recalls
  refine ⟨fun e he => ⟨hhandles e he, hfile.settles e, fun command error g hrefused => ?_⟩, hfile, hfile.writes_eq,
    hfile.readCount_eq, hfile.totalReads_eq⟩
  obtain ⟨op, rfl⟩ := BusCommand.refused_unchanged hrefused
  exact ⟨rfl, rfl, rfl, rfl⟩

/-- What is written through a clone is read through every handle, and a write that was refused in between is not. -/
theorem SharedBus.clone_written : ∃ history s, Reaches ⟨"i2c0", 0x70⟩ true history s ∧
    history.map (fun i => (i.handle, i.command)) =
      [(1, .write 0x8B [0x12, 0x34, 0x56]), (0, .failRegister 0x8B .nack), (1, .write 0x8B [0x00]), (0, .clearFaults)] ∧
    s.handles.length = 2 ∧
    ∀ e ∈ s.handles, ((RegisterFile.bus e).read 0x8B 4 s.file).1 = .ok [0x12, 0x34, 0x56, 0x00] := by
  have hcloned : Reaches ⟨"i2c0", 0x70⟩ true _ _ := .cloned 0 .fresh rfl
  have hwritten := hcloned.issued 1 (.write 0x8B [0x12, 0x34, 0x56]) rfl
  have hfailing := hwritten.issued 0 (.failRegister 0x8B .nack) rfl
  have hrefused := hfailing.issued 1 (.write 0x8B [0x00]) rfl
  have hhealed := hrefused.issued 0 .clearFaults rfl
  refine ⟨_, _, hhealed, rfl, rfl, fun e he => ?_⟩
  obtain ⟨-, hsettles, -⟩ := (history_settles hhealed).1 e he
  exact (hsettles.read 0x8B 4 _).mpr ⟨⟨rfl, by decide, by decide, rfl, rfl⟩, rfl⟩

end PowerRails
