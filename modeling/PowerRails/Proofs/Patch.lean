import PowerRails.Action.Register
import PowerRails.Bus.Simulated

/-! # Patches

A write, masked or not, leaves in each byte of a register some bits as they were and sets the others; bytes that
were not there count as zeros, and bytes beyond the write are lost. Such patches are closed under doing one after
another, and a patch that is done twice is done once. -/

namespace PowerRails

/-- What is done to a byte: the bits of `keep` stay, and then those of `set` are set. -/
structure BytePatch where
  keep : UInt8
  set : UInt8

namespace BytePatch

/-- Keeps some bits of a byte and sets others. -/
def apply (b : BytePatch) (x : UInt8) : UInt8 := (x &&& b.keep) ||| b.set

/-- One patch after another. -/
def andThen (b c : BytePatch) : BytePatch := ⟨b.keep &&& c.keep, (b.set &&& c.keep) ||| c.set⟩

theorem or_and_distrib (x y z : UInt8) : (x ||| y) &&& z = (x &&& z) ||| (y &&& z) :=
  UInt8.toBitVec_inj.mp BitVec.and_or_distrib_right

theorem and_or_self (x y : UInt8) : (x &&& y) ||| x = x := by
  refine UInt8.toBitVec_inj.mp (BitVec.eq_of_getLsbD_eq fun i _ => ?_)
  simp only [UInt8.toBitVec_or, UInt8.toBitVec_and, BitVec.getLsbD_or, BitVec.getLsbD_and]
  cases x.toBitVec.getLsbD i <;> simp

theorem apply_andThen (b c : BytePatch) (x : UInt8) : (b.andThen c).apply x = c.apply (b.apply x) := by
  simp only [apply, andThen, or_and_distrib, UInt8.and_assoc, UInt8.or_assoc]

theorem apply_apply (b : BytePatch) (x : UInt8) : b.apply (b.apply x) = b.apply x := by
  simp only [apply, or_and_distrib, UInt8.and_assoc, UInt8.and_self, UInt8.or_assoc, and_or_self]

end BytePatch

/-- What is done to a register, byte by byte. -/
abbrev Patch := List BytePatch

namespace Patch

/-- The bytes after a patch, which are as many as it has. -/
def apply : Patch → Bytes → Bytes
  | [], _ => []
  | b :: p, bytes => b.apply (bytes.headD 0) :: apply p bytes.tail

/-- One patch after another. A byte that the first cuts off is zero for the second. -/
def andThen (p : Patch) : Patch → Patch
  | [] => []
  | c :: q => (p.headD ⟨0, 0⟩).andThen c :: andThen p.tail q

theorem headD_apply (p : Patch) (bytes : Bytes) :
    (apply p bytes).headD 0 = (p.headD ⟨0, 0⟩).apply (bytes.headD 0) := by
  cases p with
  | nil => simp [apply, BytePatch.apply]
  | cons b p => rfl

theorem tail_apply (p : Patch) (bytes : Bytes) : (apply p bytes).tail = apply p.tail bytes.tail := by
  cases p <;> rfl

theorem apply_andThen (p q : Patch) (bytes : Bytes) : apply (andThen p q) bytes = apply q (apply p bytes) := by
  induction q generalizing p bytes with
  | nil => rfl
  | cons c q ih =>
    show BytePatch.apply _ _ :: _ = c.apply _ :: apply q _
    rw [BytePatch.apply_andThen, ← headD_apply, ih, tail_apply]

theorem apply_apply (p : Patch) (bytes : Bytes) : apply p (apply p bytes) = apply p bytes := by
  induction p generalizing bytes with
  | nil => rfl
  | cons b p ih =>
    show b.apply (b.apply _) :: apply p (apply p _) = _
    rw [BytePatch.apply_apply, ih]
    rfl

/-- The patch that leaves nothing as it was. -/
def overwrite (data : Bytes) : Patch := data.map (⟨0, ·⟩)

theorem apply_overwrite (data bytes : Bytes) : apply (overwrite data) bytes = data := by
  induction data generalizing bytes with
  | nil => rfl
  | cons x data ih =>
    show BytePatch.apply ⟨0, x⟩ _ :: apply (overwrite data) _ = _
    rw [ih]
    simp [BytePatch.apply]

/-- What becomes of a register that may be patched or left alone. -/
def contents (p : Option Patch) (held : Option Bytes) : Option Bytes :=
  p.elim held fun p => some (apply p (held.getD []))

/-- Some patch, if any, and then another one. -/
def after (p : Option Patch) (q : Patch) : Patch := p.elim q (andThen · q)

theorem contents_after (p : Option Patch) (q : Patch) (held : Option Bytes) :
    contents (some (after p q)) held = some (apply q ((contents p held).getD [])) := by
  cases p with
  | none => rfl
  | some p => exact congrArg some (apply_andThen p q _)

theorem contents_contents (p : Option Patch) (held : Option Bytes) :
    contents p (contents p held) = contents p held := by
  cases p with
  | none => rfl
  | some p => exact congrArg some (apply_apply p _)

end Patch

/-! ### Writes as patches -/

theorem RegisterFile.sized_succ (count : Nat) (bytes : Bytes) :
    sized (count + 1) bytes = bytes.headD 0 :: sized count bytes.tail := by
  cases bytes with
  | nil => simp [sized, List.replicate_succ]
  | cons x bytes => simp [sized]

namespace RegisterWrite

/-- What a write does to its register. -/
def patch (w : RegisterWrite) : Patch :=
  match w.mask with
  | none => Patch.overwrite w.data
  | some mask => List.zipWith (fun new m => ⟨~~~m, new &&& m⟩) w.data mask

theorem merge_sized {data mask : Bytes} (h : mask.length = data.length) (held : Bytes) :
    merge (RegisterFile.sized data.length held) data mask =
      Patch.apply (List.zipWith (fun new m => ⟨~~~m, new &&& m⟩) data mask) held := by
  induction data generalizing mask held with
  | nil =>
    obtain rfl := List.length_eq_zero_iff.mp h
    simp [merge, Patch.apply]
  | cons new data ih =>
    obtain _ | ⟨m, mask⟩ := mask
    · cases h
    · rw [List.length_cons, RegisterFile.sized_succ]
      exact congrArg (_ :: ·) (ih (Nat.succ.inj h) held.tail)

theorem length_merge {current data mask : Bytes} (hcurrent : current.length = data.length)
    (hmask : mask.length = data.length) : (merge current data mask).length = data.length := by
  simp [merge, hcurrent, hmask]

end RegisterWrite
end PowerRails
