import PowerRails.Toml.Scalar

/-! # TOML documents

`read` answers the entries of a document, or none if the text is no document. Items can be nested in one
another, but only so deep. -/

namespace PowerRails
namespace Toml

/-- What reads an item from the front of a text, and leaves the rest. -/
abbrev Reader := List Char → Option (Item × List Char)

/-- The items of an array up to its end, at most `n` of them. Lines may end between them, and a comma may
follow the last. -/
def arrayItems (item : Reader) : Nat → List Char → Option (List Item × List Char)
  | 0, _ => none
  | n + 1, cs =>
    match skipLines false cs with
    | ']' :: cs => some ([], cs)
    | cs => do
      let (first, cs) ← item cs
      match skipLines false cs with
      | ']' :: cs => some ([first], cs)
      | ',' :: cs => do
        let (more, cs) ← arrayItems item n cs
        some (first :: more, cs)
      | _ => none

/-- A key with its item. -/
def entry (item : Reader) (cs : List Char) : Option ((Path × Item) × List Char) := do
  let (path, cs) ← key cs
  match cs with
  | '=' :: cs => do
    let (item, cs) ← item (skipBlanks cs)
    some ((path, item), cs)
  | _ => none

/-- The entries of a table in braces up to its end, at most `n` of them, added to a table. No comma may
follow the last. -/
def bracedEntries (item : Reader) : Nat → Entries → List Char → Option (Entries × List Char)
  | 0, _, _ => none
  | n + 1, t, cs => do
    let ((path, item'), cs) ← entry item cs
    let t ← t.define path item'
    match skipBlanks cs with
    | '\x7d' :: cs => some (t, cs)
    | ',' :: cs => bracedEntries item n t cs
    | _ => none

/-- An item with at most `depth` arrays and tables around anything in it. -/
def value (depth : Nat) (cs : List Char) : Option (Item × List Char) :=
  match depth, cs with
  | 0, '[' :: _ | 0, '\x7b' :: _ => none
  | depth + 1, '[' :: cs => do
    let (items, cs) ← arrayItems (value depth) (cs.length + 1) cs
    some (.array items, cs)
  | depth + 1, '\x7b' :: cs =>
    match skipBlanks cs with
    | '\x7d' :: cs => some (.braced {}, cs)
    | cs => do
      let (entries, cs) ← bracedEntries (value depth) (cs.length + 1) {} cs
      some (.braced entries, cs)
  | _, c :: cs =>
    if isQuote c then do
      let (text, cs) ← quotedText c cs
      some (.text text, cs)
    else scalar (c :: cs)
  | _, [] => none

/-- How deep items can be nested in one another. -/
def maxDepth : Nat := 79

/-- A line, which begins with what is not blank. -/
def line : List Char → Option (Line × List Char)
  | '[' :: '[' :: cs => do
    let (path, cs) ← key cs
    match cs with
    | ']' :: ']' :: cs => some (.element path, cs)
    | _ => none
  | '[' :: cs => do
    let (path, cs) ← key cs
    match cs with
    | ']' :: cs => some (.header path, cs)
    | _ => none
  | cs => do
    let ((path, item), cs) ← entry (value maxDepth) cs
    some (.entry path item, cs)

/-- At most `n` lines. -/
def lines : Nat → List Char → Option (List Line)
  | 0, _ => none
  | n + 1, cs =>
    match skipLines false cs with
    | [] => some []
    | cs => do
      let (first, cs) ← line cs
      let more ← lines n (← endOfLine cs)
      some (first :: more)

/-- The entries of a document. -/
def read (text : String) : Option Entries := do
  let cs ← prepare text
  assemble (← lines (cs.length + 1) cs)

end Toml
end PowerRails
