import PowerRails.Binary64
import PowerRails.Table

/-! # Items of a TOML document

A document is a table of items. A table can be written in three ways: under a header of its own, by passing
through it on the way to another table, and in braces. What may still be added to it depends on how it was
written, so an item remembers that. The functions here answer none when a line of the document may not
stand after the lines before it; they never take anything away from a table. -/

namespace PowerRails
namespace Toml

/-- How a table came to be. -/
inductive Origin where
  /-- A header leads through it. -/
  | implied
  /-- A dotted key leads through it. -/
  | dotted
  /-- It has a header of its own. -/
  | header
deriving DecidableEq, Repr

/-- What a key can stand for. Moments are kept as they are written. -/
inductive Item where
  | text (value : String)
  | integer (value : Int)
  | real (value : Binary64)
  | boolean (value : Bool)
  | moment (literal : String)
  | array (items : List Item)
  /-- A table in braces, to which nothing can be added. -/
  | braced (entries : Table String Item)
  | table (origin : Origin) (entries : Table String Item)
  /-- Tables that share a header: the latest, then the earlier ones with the latest of them first. -/
  | tables (latest : Table String Item) (earlier : List (Table String Item))

instance : Inhabited Item := ⟨.boolean false⟩

/-- A key with the names of the tables it leads through. -/
structure Path where
  outer : List String
  name : String
deriving DecidableEq, Repr

/-- The names of a path, the outermost first. -/
def Path.names (p : Path) : List String := p.outer ++ [p.name]

/-- The items of a table under their keys. -/
abbrev Entries := Table String Item

namespace Entries

/-- Changes the entries that the table at the end of a path has. Missing tables are made on the way, as
tables of the given origin. The latest of several tables under one header stands for all of them. A dotted
key does not lead into a table with a header of its own, and nothing leads through an item that is not a
table or stands in braces. -/
def along (made : Origin) (change : Origin → Entries → Option Entries) :
    List String → Origin → Entries → Option Entries
  | [], origin, t => change origin t
  | key :: keys, _, t =>
    match t.get? key with
    | none => (along made change keys made {}).map fun inner => t.insert key (.table made inner)
    | some (.table origin inner) =>
      if made = .dotted ∧ origin = .header then none
      else (along made change keys origin inner).map fun inner => t.insert key (.table origin inner)
    | some (.tables latest earlier) =>
      (along made change keys .header latest).map fun latest => t.insert key (.tables latest earlier)
    | some _ => none

/-- Gives a key its item. A key is given an item once, and a dotted key adds to tables made by dotted keys
only. -/
def define (t : Entries) (path : Path) (item : Item) : Option Entries :=
  along .dotted (fun origin inner =>
    if path.outer ≠ [] ∧ origin ≠ .dotted then none
    else if inner.contains path.name then none
    else some (inner.insert path.name item)) path.outer .header t

/-- The table under a header. It may have been passed through before, but has no other header. -/
def openTable (t : Entries) (path : Path) : Option Entries :=
  along .implied (fun _ inner =>
    match inner.get? path.name with
    | none => some (inner.insert path.name (.table .header {}))
    | some (.table .implied entries) => some (inner.insert path.name (.table .header entries))
    | some _ => none) path.outer .header t

/-- One more table under a header that tables can share. -/
def openElement (t : Entries) (path : Path) : Option Entries :=
  along .implied (fun _ inner =>
    match inner.get? path.name with
    | none => some (inner.insert path.name (.tables {} []))
    | some (.tables latest earlier) => some (inner.insert path.name (.tables {} (latest :: earlier)))
    | some _ => none) path.outer .header t

end Entries

/-- What a line of a document says: a table begins, an element of a list of tables begins, or a key has a value. -/
inductive Line where
  | header (path : Path)
  | element (path : Path)
  | entry (path : Path) (item : Item)

/-- A document as far as it has been read: its entries, and the names of the latest header. -/
structure Draft where
  root : Entries := {}
  header : List String := []

/-- A document with one more line. Entries belong to the table of the latest header. -/
def Draft.add (d : Draft) : Line → Option Draft
  | .header path => (d.root.openTable path).map fun root => { root, header := path.names }
  | .element path => (d.root.openElement path).map fun root => { root, header := path.names }
  | .entry path item =>
    (d.root.along .implied (fun _ t => t.define path item) d.header .header).map fun root => { d with root }

/-- The entries of a document with these lines. -/
def assemble (lines : List Line) : Option Entries := (lines.foldlM Draft.add {}).map Draft.root

end Toml
end PowerRails
