/-! # Data

Structured data as it is exchanged with other programs: numbers, texts, lists, and objects with named
fields. -/

namespace PowerRails

/-- A piece of exchanged data. Numbers with a fraction have no place in what is exchanged here and are kept
only as being none of the other kinds. -/
inductive Datum where
  | null
  | boolean (value : Bool)
  | integer (value : Int)
  | fractional
  | text (value : String)
  | list (items : List Datum)
  | object (fields : List (String × Datum))
deriving Repr, Inhabited

namespace Datum

/-- A field of an object; the first one of a name counts. -/
def field? : Datum → String → Option Datum
  | .object fields, name => fields.lookup name
  | _, _ => none

def text? : Datum → Option String
  | .text value => some value
  | _ => none

/-- An integer from zero up to, but not including, `bound`. -/
def natBelow? (bound : Nat) : Datum → Option Nat
  | .integer value => if 0 ≤ value ∧ value < bound then some value.toNat else none
  | _ => none

def byte? (d : Datum) : Option UInt8 := (d.natBelow? 256).map UInt8.ofNat

/-- A list whose items `read` accepts. -/
def list? (read : Datum → Option α) : Datum → Option (List α)
  | .list items => items.mapM read
  | _ => none

/-- A text that may be missing: no such field and a null field both count as none. -/
def optionalText? (d : Datum) (name : String) : Option (Option String) :=
  match d.field? name with
  | none => some none
  | some .null => some none
  | some (.text value) => some (some value)
  | some _ => none

/-- A text, or null where there is none. -/
def ofOptionalText : Option String → Datum
  | none => .null
  | some value => .text value

/-- Bytes as a list of numbers. -/
def ofBytes (bs : List UInt8) : Datum := .list (bs.map fun b => .integer b.toNat)

end Datum
end PowerRails
