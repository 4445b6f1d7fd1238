import PowerRails.Fault

/-! # Register values

A register holds an integer of one, two or four bytes, with or without a sign, lowest byte first. `decode`
turns the bytes read from a register into that integer, after a mask has cut out the bits of interest. -/

namespace PowerRails

/-- The widths of register values. -/
inductive RegisterWidth where
  | byte
  | word
  | long
deriving DecidableEq, Repr

/-- The number of bytes of a width. -/
def RegisterWidth.length : RegisterWidth → Nat
  | .byte => 1
  | .word => 2
  | .long => 4

/-- How the bytes of a register are read as an integer. -/
structure RegisterFormat where
  width : RegisterWidth
  signed : Bool
deriving DecidableEq, Repr

namespace RegisterFormat

/-- The format with the given number of bits; only 8, 16 and 32 are supported. -/
def ofBits (bits : Nat) (signed : Bool) : Except Fault RegisterFormat :=
  match bits with
  | 8 => .ok ⟨.byte, signed⟩
  | 16 => .ok ⟨.word, signed⟩
  | 32 => .ok ⟨.long, signed⟩
  | _ => .error (.invalidAction "register_format" s!"unsupported width of {bits} bits")

/-- The number of bytes that are read for one value. -/
def byteLength (f : RegisterFormat) : Nat := f.width.length

/-- The number of bits of a value. -/
def bits (f : RegisterFormat) : Nat := 8 * f.byteLength

/-- The mask that selects all bits of a value. -/
def fullMask (f : RegisterFormat) : Nat := Nat.pow 2 f.bits - 1

/-- The least value of a format. -/
def min (f : RegisterFormat) : Int := if f.signed then -(Nat.pow 2 (f.bits - 1) : Int) else 0

/-- The greatest value of a format. -/
def max (f : RegisterFormat) : Int := (if f.signed then Nat.pow 2 (f.bits - 1) else Nat.pow 2 f.bits : Nat) - 1

/-- Whether an integer is a value of a format. -/
def contains (f : RegisterFormat) (value : Int) : Bool := f.min ≤ value ∧ value ≤ f.max

/-- The name of a format, such as `u8` or `i16`. -/
def text (f : RegisterFormat) : String := (if f.signed then "i" else "u") ++ toString f.bits

/-- The number whose digits in base 256 are the bytes, the lowest digit first. -/
def littleEndian : Bytes → Nat
  | [] => 0
  | b :: bs => b.toNat + 256 * littleEndian bs

/-- The value of the leading bytes under a mask. Missing bytes count as zero, further ones are passed over,
and the top bit of a signed format stands for a negative power. -/
def decode (f : RegisterFormat) (bytes : Bytes) (mask : Nat) : Int :=
  let masked := littleEndian (bytes.take f.byteLength) &&& mask &&& f.fullMask
  if f.signed ∧ Nat.pow 2 (f.bits - 1) ≤ masked then (masked : Int) - Nat.pow 2 f.bits else masked

end RegisterFormat

/-- The ways to compare a register value with an operand. -/
inductive Comparison where
  | equal
  | notEqual
  | less
  | lessOrEqual
  | greater
  | greaterOrEqual
deriving DecidableEq, Repr

namespace Comparison

/-- All comparisons. -/
def all : List Comparison := [.equal, .notEqual, .less, .lessOrEqual, .greater, .greaterOrEqual]

/-- The name of a comparison in texts of actions. -/
def name : Comparison → String
  | .equal => "equal"
  | .notEqual => "not_equal"
  | .less => "less"
  | .lessOrEqual => "less_or_equal"
  | .greater => "greater"
  | .greaterOrEqual => "greater_or_equal"

def ofName? (s : String) : Option Comparison := all.find? (·.name == s)

/-- Whether the left value stands in this relation to the right one. -/
def holds : Comparison → Int → Int → Bool
  | .equal, l, r => l == r
  | .notEqual, l, r => l != r
  | .less, l, r => l < r
  | .lessOrEqual, l, r => l ≤ r
  | .greater, l, r => l > r
  | .greaterOrEqual, l, r => l ≥ r

theorem ofName?_name (c : Comparison) : ofName? c.name = some c := by cases c <;> decide +kernel

end Comparison
end PowerRails
