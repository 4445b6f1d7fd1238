/-! # Hexadecimal text

Registers, addresses, masks and register contents are written in hexadecimal after a lower-case `0x`.
`upper` and `lower` differ in the case of the digits only. A width is a least number of digits: shorter
numbers are padded with zeros on the left, longer ones are written in full. -/

namespace PowerRails

/-- The contents of a register, lowest address first. -/
abbrev Bytes := List UInt8

namespace Hex

/-- The digits of `n` in base sixteen, most significant first, with letters in lower case. -/
def digits (n : Nat) : List Char := Nat.toDigits 16 n

/-- Zeros on the left until there are at least `width` digits. -/
def padded (width : Nat) (ds : List Char) : List Char := List.replicate (width - ds.length) '0' ++ ds

/-- `n` with at least `width` upper-case digits. -/
def upper (width n : Nat) : String := "0x" ++ String.ofList (padded width ((digits n).map Char.toUpper))

/-- `n` with at least `width` lower-case digits. -/
def lower (width n : Nat) : String := "0x" ++ String.ofList (padded width (digits n))

/-- A register number or one byte of its contents: two digits. -/
def byte (b : UInt8) : String := upper 2 b.toNat

/-- Register contents as diagnostics show them, `[ 0xD7, 0x13 ]`; no bytes leave two blanks. -/
def bytes (bs : Bytes) : String := "[ " ++ ", ".intercalate (bs.map byte) ++ " ]"

end Hex
end PowerRails
