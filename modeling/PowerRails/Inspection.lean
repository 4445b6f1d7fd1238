import PowerRails.Binary64.Decimal
import PowerRails.Text.Quoted

/-! # Inspection

A one-line listing of a value with all its parts, for people who look into a running system. A value is shown as
an atom, a list, or a named group of parts; the parts of a record carry names as well. -/

namespace PowerRails

/-- A value as inspection shows it. -/
inductive Inspection where
  | atom (text : String)
  | list (items : List Inspection)
  /-- A name with parts in parentheses; a pair has no name. -/
  | group (name : String) (parts : List Inspection)
  /-- A name with named parts in braces; a record may withhold some of its parts. -/
  | record (name : String) (parts : List (String × Inspection)) (withheld : Bool)

namespace Inspection

mutual

/-- The text of what is shown. -/
def text : Inspection → String
  | .atom s => s
  | .list items => "[" ++ itemsText "" items ++ "]"
  | .group name parts => name ++ "(" ++ itemsText "" parts ++ ")"
  | .record name parts withheld =>
    name ++ " \x7b " ++ partsText "" parts ++ (if withheld then ", .. \x7d" else " \x7d")
  termination_by structural v => v

/-- The listings of values with commas between them; `separator` goes before the first one. -/
def itemsText (separator : String) : List Inspection → String
  | [] => ""
  | v :: vs => separator ++ text v ++ itemsText ", " vs
  termination_by structural vs => vs

/-- The listings of named values with commas between them; `separator` goes before the first one. -/
def partsText (separator : String) : List (String × Inspection) → String
  | [] => ""
  | (name, v) :: rest => separator ++ name ++ ": " ++ text v ++ partsText ", " rest
  termination_by structural parts => parts

end

def ofText (s : String) : Inspection := .atom (Text.quoted s)

def ofBool (b : Bool) : Inspection := .atom (toString b)

def ofInt (n : Int) : Inspection := .atom (toString n)

def ofFloat (x : Binary64) : Inspection := .atom x.scientific

/-- A register number, in decimal. -/
def ofRegister (register : UInt8) : Inspection := .ofInt register.toNat

/-- The bytes of a list, in decimal. -/
def ofBytes (bs : Bytes) : Inspection := .list (bs.map fun b => .atom (toString b.toNat))

def ofOption {α : Type} (inner : α → Inspection) : Option α → Inspection
  | none => .atom "None"
  | some a => .group "Some" [inner a]

/-- A record that withholds nothing. -/
def full (name : String) (parts : List (String × Inspection)) : Inspection := .record name parts false

end Inspection
end PowerRails
