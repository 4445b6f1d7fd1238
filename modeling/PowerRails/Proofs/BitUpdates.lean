import PowerRails.Proofs.Registers
import PowerRails.Proofs.Writes

/-! # Bit updates

A write with a mask reads its register, takes the bits of the mask from its data and the others from what it has read,
and writes the result back. On a simulated bus, where registers may be shorter or longer than a transfer, a write that
succeeds is therefore an update of exactly the bits of its mask, made by one read and one write
(`RegisterWrite.Updates`). A write that fails changes no register. -/

namespace PowerRails

/-! ### Bytes -/

theorem RegisterFile.getD_sized (count : Nat) (bytes : Bytes) {i : Nat} (hi : i < count) :
    (sized count bytes).getD i 0 = bytes.getD i 0 := by
  unfold sized
  simp only [List.getD_eq_getElem?_getD, List.getElem?_append, List.getElem?_take, List.length_take]
  split
  · rfl
  · rw [List.getElem?_eq_none (l := bytes) (by omega), List.getElem?_replicate]
    split <;> rfl

theorem RegisterFile.sized_length (bytes : Bytes) : sized bytes.length bytes = bytes := by
  simp [sized]

namespace RegisterWrite

theorem getD_merge {current data mask : Bytes} (hcurrent : current.length = data.length)
    (hmask : mask.length = data.length) {i : Nat} (hi : i < data.length) :
    (merge current data mask).getD i 0 =
      (current.getD i 0 &&& ~~~mask.getD i 0) ||| (data.getD i 0 &&& mask.getD i 0) := by
  simp [merge, List.getD_eq_getElem?_getD, hcurrent, hmask, hi]

/-- What a write leaves in its register, over what the register holds. -/
def result (w : RegisterWrite) (held : Bytes) : Bytes :=
  match w.mask with
  | none => w.data
  | some mask => merge (RegisterFile.sized w.data.length held) w.data mask

/-- What a write reads. -/
def reading (w : RegisterWrite) : List BusOperation :=
  if w.mask.isSome then [.read w.register w.data.length] else []

/-- What a write that succeeds makes of a register file. -/
def applied (w : RegisterWrite) (f : RegisterFile) : RegisterFile :=
  let bytes := w.result ((f.register? w.register).getD [])
  { f with
    isOpen := true
    registers := f.registers.insert w.register bytes
    log := f.log ++ f.opening ++ w.reading ++ [.wrote w.register bytes] }

/-- From one bench to another, the register of a write is updated in the bits of its mask, and nothing else is changed.
Reading the register gives the updated bytes. -/
structure Updates (w : RegisterWrite) (name : String) (endpoint : Endpoint) (b b' : Bench) (bytes : Bytes) : Prop where
  length : bytes.length = w.data.length
  whole : w.mask = none → bytes = w.data
  bits : ∀ mask, w.mask = some mask → ∀ i < w.data.length, bytes.getD i 0 =
    (((b.held name w.register).getD []).getD i 0 &&& ~~~mask.getD i 0) ||| (w.data.getD i 0 &&& mask.getD i 0)
  read : ((Bench.bus name endpoint).read w.register w.data.length b').1 = .ok bytes
  registers : ∀ register, register ≠ w.register → b'.held name register = b.held name register
  faults : (b'.file name).faults = (b.file name).faults
  faultOfAll : (b'.file name).faultOfAll = (b.file name).faultOfAll
  elsewhere : ∀ other, other ≠ name → b'.get? other = b.get? other
  log : (b'.file name).log =
    (b.file name).log ++ (b.file name).opening ++ w.reading ++ [.wrote w.register bytes]

end RegisterWrite

/-! ### Accesses that answer -/

namespace Context
variable {c : Context Bench} {s t : State Bench} {d : Device Bench} {name : String} {endpoint : Endpoint}

section
variable (hd : c.device = .ok d) (hbus : d.bus = Bench.bus name endpoint) (hfree : d.id ∉ c.held)
include hd hbus hfree

theorem readBlock_turns {register : UInt8} {count : Nat} {bytes : Bytes}
    (h : c.readBlock register count s = (.ok bytes, t)) :
    bytes = RegisterFile.sized count ((s.hardware.held name register).getD []) ∧
      s.hardware.Turns name ((s.hardware.file name).opened.logged (.read register count)) t.hardware := by
  obtain ⟨u, -, hturns, haccess⟩ := access_of_bench (s := s) hd hbus hfree register (.read register count)
    fun bus => bus.read register count
  replace h := haccess.symm.trans h
  have hopen : (u.hardware.file name).isOpen = true := hturns.file ▸ rfl
  cases hproblem : RegisterFile.problem? ((u.hardware.file name).failure? register) register count with
  | some problem =>
    rw [c.transfer_of_error register _ (Bench.bus_read (RegisterFile.read_of_some endpoint hopen hproblem))] at h
    cases h
  | none =>
    rw [c.transfer_of_ok register _ (Bench.bus_read (RegisterFile.read_of_none endpoint hopen hproblem))] at h
    cases h
    rw [hturns.file]
    exact ⟨rfl, hturns.trans (.insert _ name _)⟩

theorem writeBlock_turns {register : UInt8} {data : Bytes} (h : c.writeBlock register data s = (.ok (), t)) :
    RegisterFile.problem? (s.hardware.failure? name register) register data.length = none ∧
      s.hardware.Turns name (((s.hardware.file name).opened.logged (.wrote register data)).setRegister register data)
        t.hardware := by
  obtain ⟨u, hkeeps, hturns, haccess⟩ := access_of_bench (s := s) hd hbus hfree register (.write register data)
    fun bus => bus.write register data
  replace h := haccess.symm.trans h
  have hopen : (u.hardware.file name).isOpen = true := hturns.file ▸ rfl
  cases hproblem : RegisterFile.problem? ((u.hardware.file name).failure? register) register data.length with
  | some problem =>
    rw [c.transfer_of_error register _ (Bench.bus_write (RegisterFile.write_of_some endpoint hopen hproblem))] at h
    cases h
  | none =>
    rw [c.transfer_of_ok register _ (Bench.bus_write (RegisterFile.write_of_none endpoint hopen hproblem))] at h
    cases h
    rw [← hkeeps.failure, ← hturns.file]
    exact ⟨hproblem, hturns.trans (.insert _ name _)⟩

theorem writeRegister_turns {w : RegisterWrite} {answer : Bool} (h : c.writeRegister w s = (.ok answer, t)) :
    RegisterFile.problem? (s.hardware.failure? name w.register) w.register w.data.length = none ∧
      s.hardware.Turns name (w.applied (s.hardware.file name)) t.hardware := by
  unfold writeRegister bytesToWrite at h
  cases hmask : w.mask with
  | none =>
    rw [hmask, pure_bind] at h
    obtain ⟨⟨⟩, u, hwrite, h⟩ := Op.bind_eq_ok h
    cases h
    obtain ⟨hproblem, hturns⟩ := writeBlock_turns hd hbus hfree hwrite
    have hresult : w.result (((s.hardware.file name).register? w.register).getD []) = w.data := by
      rw [RegisterWrite.result, hmask]
    refine ⟨hproblem, ?_⟩
    unfold RegisterWrite.applied RegisterWrite.reading
    rw [hresult, hmask, Option.isSome_none, if_neg Bool.false_ne_true, List.append_nil]
    exact hturns
  | some mask =>
    rw [hmask, bind_assoc] at h
    obtain ⟨held, u, hread, h⟩ := Op.bind_eq_ok h
    rw [pure_bind] at h
    obtain ⟨⟨⟩, v, hwrite, h⟩ := Op.bind_eq_ok h
    cases h
    obtain ⟨rfl, hturns⟩ := readBlock_turns hd hbus hfree hread
    obtain ⟨hproblem, hturns'⟩ := writeBlock_turns hd hbus hfree hwrite
    -- The bus is open by then, and carries as many bytes as before.
    have hlength := RegisterWrite.length_merge
      (RegisterFile.length_sized w.data.length ((s.hardware.held name w.register).getD [])) (w.mask_length mask hmask)
    rw [Bench.failure?, hturns.file, hlength] at hproblem
    rw [hturns.file, RegisterFile.opened_of_isOpen rfl] at hturns'
    refine ⟨hproblem, ?_⟩
    have hresult : w.result (((s.hardware.file name).register? w.register).getD []) =
        RegisterWrite.merge (RegisterFile.sized w.data.length ((s.hardware.held name w.register).getD []))
          w.data mask := by
      rw [RegisterWrite.result, hmask]
      rfl
    unfold RegisterWrite.applied RegisterWrite.reading
    rw [hresult, hmask, Option.isSome_some, if_pos rfl]
    exact hturns.trans hturns'

end

end Context

namespace RegisterWrite

theorem length_result (w : RegisterWrite) (held : Bytes) : (w.result held).length = w.data.length := by
  unfold result
  cases hmask : w.mask with
  | none => rfl
  | some mask => exact length_merge (RegisterFile.length_sized _ held) (w.mask_length mask hmask)

/-- Over a register file that carries the transfer, what a write makes of it is an update of the bits of its mask. -/
theorem updates_of_turns {w : RegisterWrite} {b b' : Bench} {name : String} (endpoint : Endpoint)
    (hproblem : RegisterFile.problem? (b.failure? name w.register) w.register w.data.length = none)
    (h : b.Turns name (w.applied (b.file name)) b') :
    w.Updates name endpoint b b' (w.result ((b.held name w.register).getD [])) where
  length := w.length_result _
  whole hmask := by rw [result, hmask]
  bits mask hmask i hi := by
    rw [result, hmask]
    dsimp only
    rw [getD_merge (RegisterFile.length_sized _ _) (w.mask_length mask hmask) hi, RegisterFile.getD_sized _ _ hi]
  read := by
    have hopen : (b'.file name).isOpen = true := h.file ▸ rfl
    have hstored : (b'.file name).register? w.register = some (w.result ((b.held name w.register).getD [])) := by
      rw [h.file]
      exact Table.get?_insert_self _ _ _
    have hcarried : RegisterFile.problem? ((b'.file name).failure? w.register) w.register w.data.length = none :=
      h.file ▸ hproblem
    rw [Bench.bus_read (RegisterFile.read_of_none endpoint hopen hcarried), hstored, Option.getD_some,
      ← w.length_result, RegisterFile.sized_length]
  registers register hother := by
    rw [Bench.held, h.file]
    exact Table.get?_insert_of_ne _ hother _
  faults := by rw [h.file]; rfl
  faultOfAll := by rw [h.file]; rfl
  elsewhere := h.elsewhere
  log := by rw [h.file]; rfl

end RegisterWrite

/-! ### Writes one after another -/

/-- Two updates of bytes under masks that have no bit in common may be made in either order. -/
theorem BytePatch.apply_comm {m k : UInt8} (h : m &&& k = 0) (x y z : UInt8) :
    apply ⟨~~~m, x &&& m⟩ (apply ⟨~~~k, y &&& k⟩ z) = apply ⟨~~~k, y &&& k⟩ (apply ⟨~~~m, x &&& m⟩ z) := by
  refine UInt8.toBitVec_inj.mp (BitVec.eq_of_getLsbD_eq fun i hi => ?_)
  have hbit : (m.toBitVec.getLsbD i && k.toBitVec.getLsbD i) = false := by
    rw [← BitVec.getLsbD_and, ← UInt8.toBitVec_and, h]
    exact BitVec.getLsbD_zero
  simp only [apply, UInt8.toBitVec_or, UInt8.toBitVec_and, UInt8.toBitVec_not, BitVec.getLsbD_or, BitVec.getLsbD_and,
    BitVec.getLsbD_not, hi, decide_true, Bool.true_and]
  revert hbit
  cases m.toBitVec.getLsbD i <;> cases k.toBitVec.getLsbD i <;> simp

namespace RegisterWrite

/-- Two writes with masks concern the same register, as many bytes of it, and different bits of them. -/
def Apart (v w : RegisterWrite) : Prop :=
  v.register = w.register ∧ ∃ m k, v.mask = some m ∧ w.mask = some k ∧ List.Forall₂ (fun x y => x &&& y = 0) m k

theorem length_of_apart {v w : RegisterWrite} (h : v.Apart w) : v.data.length = w.data.length := by
  obtain ⟨-, m, k, hm, hk, hdisjoint⟩ := h
  rw [← v.mask_length m hm, ← w.mask_length k hk, hdisjoint.length_eq]

theorem apply_patch_comm {v w : RegisterWrite} (h : v.Apart w) (held : Bytes) :
    v.patch.apply (w.patch.apply held) = w.patch.apply (v.patch.apply held) := by
  obtain ⟨-, m, k, hm, hk, hdisjoint⟩ := h
  have hlength : m.length = v.data.length := v.mask_length m hm
  have hlength' : k.length = w.data.length := w.mask_length k hk
  simp only [patch, hm, hk]
  generalize v.data = data at hlength
  generalize w.data = data' at hlength'
  clear hm hk
  -- Writes of different lengths would not commute: each cuts off what the other has beyond it.
  induction hdisjoint generalizing data data' held with
  | nil => simp
  | @cons x y m k hbits _ ih =>
    obtain _ | ⟨new, data⟩ := data
    · cases hlength
    · obtain _ | ⟨new', data'⟩ := data'
      · cases hlength'
      · simp only [List.zipWith_cons_cons, Patch.apply, List.headD_cons, List.tail_cons]
        rw [BytePatch.apply_comm hbits, ih _ _ (Nat.succ.inj hlength) _ (Nat.succ.inj hlength')]

/-- The same write of all bits. -/
def unmasked (w : RegisterWrite) : RegisterWrite := { w with mask := none, mask_length := by simp }

theorem patch_of_full {w : RegisterWrite} (h : w.mask = some (List.replicate w.data.length 0xFF)) :
    w.patch = w.unmasked.patch := by
  simp only [patch, unmasked, h, Patch.overwrite]
  induction w.data with
  | nil => rfl
  | cons new data ih =>
    have hall : new &&& 0xFF = new := UInt8.toBitVec_inj.mp BitVec.and_allOnes
    rw [List.length_cons, List.replicate_succ, List.zipWith_cons_cons, List.map_cons, ih, hall]
    rfl

end RegisterWrite

/-- All registers of two benches hold the same. -/
def Bench.SameRegisters (b b' : Bench) : Prop := ∀ name register, b.held name register = b'.held name register

namespace Context
variable {c : Context Bench} {s : State Bench} {name : String} {refusal : Option BusFault → UInt8 → Nat → Option Fault}

/-- What a write leaves behind, whether or not it succeeds. -/
def written (c : Context Bench) (w : RegisterWrite) (s : State Bench) : State Bench :=
  (c.perform (.writeRegister w) s).2

theorem Line.becomes_written (h : c.Line name refusal) (w : RegisterWrite) (s : State Bench) :
    s.Becomes (c.written w s) name w.register
      ((refusal (s.hardware.failure? name w.register) w.register w.data.length).elim (some w.patch) fun _ => none) := by
  obtain ⟨t, hwrite, hbecomes⟩ := h.writeRegister w s
  rw [written, perform_of_single? rfl, Op.framed_apply, hwrite]
  exact hbecomes

theorem updates_of_writeRegister (hbench : c.OnBench) {w : RegisterWrite} {answer : Bool} {t : State Bench}
    (h : c.writeRegister w s = (.ok answer, t)) : answer = true ∧ ∃ d name endpoint bytes,
      c.device = .ok d ∧ d.bus = Bench.bus name endpoint ∧ w.Updates name endpoint s.hardware t.hardware bytes := by
  obtain ⟨bytes, u, -, hrest⟩ := Op.bind_eq_ok h
  obtain ⟨⟨⟩, v, hwrite, hanswer⟩ := Op.bind_eq_ok hrest
  obtain ⟨d, hd, hfree⟩ := device_of_access hwrite
  obtain ⟨name, endpoint, hbus⟩ := hbench d hd
  rw [← (Plant.device?_eq_some (Plant.device_eq_ok_iff.mp hd)).2] at hfree
  obtain ⟨hproblem, hturns⟩ := writeRegister_turns hd hbus hfree h
  cases hanswer
  exact ⟨rfl, d, name, endpoint, _, hd, hbus, RegisterWrite.updates_of_turns endpoint hproblem hturns⟩

/-- Writes that succeed change the bits of their masks, and no others, by one read if there is a mask, and one write.
Writes that fail change no register. So a mask of all bits is as good as none, a write that is repeated changes nothing,
and writes of different bits may be made in either order. -/
theorem write_updates_bits (hbench : c.OnBench) (w : RegisterWrite) (s : State Bench) :
    (∀ answer t, c.perform (.writeRegister w) s = (.ok answer, t) → answer = true ∧ ∃ d name endpoint bytes,
      c.device = .ok d ∧ d.bus = Bench.bus name endpoint ∧ w.Updates name endpoint s.hardware t.hardware bytes) ∧
    (∀ fault t, c.perform (.writeRegister w) s = (.error fault, t) → t.hardware.SameRegisters s.hardware) ∧
    (w.mask = some (List.replicate w.data.length 0xFF) →
      (c.written w s).hardware.SameRegisters (c.written w.unmasked s).hardware) ∧
    (c.written w (c.written w s)).hardware.SameRegisters (c.written w s).hardware ∧
    ∀ v : RegisterWrite, v.Apart w →
      (c.written v (c.written w s)).hardware.SameRegisters (c.written w (c.written v s)).hardware := by
  obtain ⟨name, refusal, hlines⟩ := hbench.exists_lines
  have hline := hlines c rfl rfl rfl
  have hbecomes := hline.becomes_written
  -- As to registers, a write is refused or patches its register, and whether it is refused depends on no register.
  refine ⟨fun answer t h => ?_, fun fault t h other r => ?_, fun hfull other r => ?_, fun other r => ?_,
    fun v hv other r => ?_⟩
  · rw [perform_of_single? rfl] at h
    exact updates_of_writeRegister hbench (Op.framed_eq_ok h)
  · obtain ⟨u, hwrite, hchange⟩ := hline.writeRegister w s
    rw [perform_of_single? rfl] at h
    obtain ⟨inner, hfails, -⟩ := Op.framed_eq_error h
    cases hrefusal : refusal (s.hardware.failure? name w.register) w.register w.data.length with
    | none =>
      rw [hrefusal] at hwrite
      cases hwrite.symm.trans hfails
    | some fault =>
      rw [hrefusal] at hwrite hchange
      cases hwrite.symm.trans hfails
      exact hchange.unpatched.held other r
  · rw [(hbecomes w s).held, (hbecomes w.unmasked s).held, RegisterWrite.patch_of_full hfull]
    rfl
  · rw [(hbecomes w _).held, (hbecomes w s).failure, (hbecomes w s).held]
    split
    · rw [Patch.contents_contents]
    · rfl
  · have hlength := RegisterWrite.length_of_apart hv
    rw [(hbecomes v _).held, (hbecomes w _).held, (hbecomes w _).held, (hbecomes v _).held, (hbecomes w s).failure,
      (hbecomes v s).failure, hv.1, hlength]
    split
    · cases refusal (s.hardware.failure? name w.register) w.register w.data.length with
      | some fault => rfl
      | none => exact congrArg some (RegisterWrite.apply_patch_comm hv _)
    · rfl

end Context

/-! ### A register that is shorter than what is written to it -/

/-- A supply on the first bus of a bench. -/
def benchSupply : Device Bench where
  id := "psu"
  isRegulator := true
  inventoryPath := ""
  bus := Bench.bus "i2c0" ⟨"i2c0", 0x40⟩

def benchContext : Context Bench where
  plant := ⟨[⟨"chassis", "", [benchSupply]⟩], []⟩
  cycle := 0
  maxRuleDepth := 8
  scope := ⟨"psu", none⟩

/-- One byte is held. -/
def benchState : State Bench where
  hardware := ⟨[("i2c0", RegisterFile.setRegister {} 0x10 [0xAA])]⟩

/-- A write of some bits of two bytes. -/
def twoBytes : RegisterWrite := ⟨0x10, [0x03, 0xFF], some [0x0F, 0x3C], by decide, by decide, by decide⟩

/-- The upper bits of the first byte are kept. There is no second byte, so its other bits count as zeros. -/
theorem benchSupply_updated : benchContext.OnBench ∧
    ∃ t, benchContext.perform (.writeRegister twoBytes) benchState = (.ok true, t) ∧
      (∃ d name endpoint bytes, benchContext.device = .ok d ∧ d.bus = Bench.bus name endpoint ∧
        twoBytes.Updates name endpoint benchState.hardware t.hardware bytes) ∧
      t.hardware.held "i2c0" 0x10 = some [0xA3, 0x3C] := by
  have hbench : benchContext.OnBench := by
    rintro _ ⟨⟩
    exact ⟨"i2c0", _, rfl⟩
  have hok : benchContext.perform (.writeRegister twoBytes) benchState =
      (.ok true, (benchContext.writeRegister twoBytes benchState).2) := by
    rw [Context.perform_of_single? rfl]
    rfl
  obtain ⟨hupdates, -⟩ := Context.write_updates_bits hbench twoBytes benchState
  exact ⟨hbench, _, hok, (hupdates true _ hok).2, rfl⟩

end PowerRails
