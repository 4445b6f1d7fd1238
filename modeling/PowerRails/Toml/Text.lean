import PowerRails.Toml.Item

/-! # Keys and quoted text in TOML

Readers take the characters that are left and answer what they have read and what is left after it, or none
if the characters do not begin with what they read. Line ends are line feeds by then, and there are no other
control characters but tabs (`prepare`). -/

namespace PowerRails
namespace Toml

/-- Characters, if they can stand in a document, with every line end written as a line feed. -/
def lineFeeds : List Char → Option (List Char)
  | [] => some []
  | '\r' :: '\n' :: cs => (lineFeeds cs).map ('\n' :: ·)
  | c :: cs =>
    if c = '\t' ∨ c = '\n' ∨ 0x20 ≤ c.toNat ∧ c.toNat ≠ 0x7F then (lineFeeds cs).map (c :: ·) else none

/-- The characters of a document. A byte order mark in front is no part of it. -/
def prepare (text : String) : Option (List Char) :=
  match text.toList with
  | '\uFEFF' :: cs => lineFeeds cs
  | cs => lineFeeds cs

/-- Blanks separate what stands on a line. -/
def isBlank (c : Char) : Bool := c = ' ' || c = '\t'

/-- What is left after blanks. -/
def skipBlanks (cs : List Char) : List Char := cs.dropWhile isBlank

/-- What is left after blanks, line ends and comments; the flag tells that a comment has begun. -/
def skipLines : Bool → List Char → List Char
  | _, [] => []
  | true, c :: cs => skipLines (c ≠ '\n') cs
  | false, c :: cs =>
    if c = '#' then skipLines true cs
    else if isBlank c ∨ c = '\n' then skipLines false cs
    else c :: cs

/-- What is left after the end of a line, before which there may be a comment. -/
def endOfLine (cs : List Char) : Option (List Char) :=
  match skipBlanks cs with
  | [] => some []
  | '\n' :: cs => some cs
  | '#' :: cs => some (cs.dropWhile (· ≠ '\n'))
  | _ => none

/-! ### Quoted text -/

/-- How a text is quoted: the quote, and whether it stands three times and the text can have several lines. -/
structure Quotation where
  quote : Char
  several : Bool
deriving DecidableEq, Repr

/-- The number of quotes in front of a text, and after it. -/
def Quotation.width (q : Quotation) : Nat := if q.several then 3 else 1

/-- The quotes in the longest run that ends a text. A text of several lines may itself end with two quotes. -/
def Quotation.longest (q : Quotation) : Nat := if q.several then 5 else 1

/-- Whether a run of so many quotes ends a text. -/
def Quotation.ends (q : Quotation) (run : Nat) : Bool := q.width ≤ run && run ≤ q.longest

/-- Where in a quoted text a reader is. -/
inductive Position where
  | plain
  /-- After so many quotes in a row. -/
  | quotes (run : Nat)
  /-- After a backslash. -/
  | escape
  /-- So many digits before the end of a numbered character. -/
  | digits (left value : Nat)
  /-- After a backslash at the end of a line; the flag tells that the line has ended. -/
  | fold (ended : Bool)

/-- The number that a hexadecimal digit stands for. -/
def hexDigit? (c : Char) : Option Nat :=
  if c.isDigit then some (c.toNat - 48)
  else if 'a' ≤ c ∧ c ≤ 'f' then some (c.toNat - 87)
  else if 'A' ≤ c ∧ c ≤ 'F' then some (c.toNat - 55)
  else none

/-- The character with a number, if it is one. -/
def charOfNumber? (n : Nat) : Option Char := if n.isValidChar then some (Char.ofNat n) else none

/-- One more character of a text, which has nothing open before it. The text is kept with its end first. -/
def Quotation.plain (q : Quotation) (c : Char) (text : List Char) : Option (Position × List Char) :=
  if c = q.quote then some (.quotes 1, text)
  else if c = '\\' ∧ q.quote = '"' then some (.escape, text)
  else if c = '\n' ∧ q.several = false then none
  else some (.plain, c :: text)

/-- The character after a backslash. -/
def Quotation.escaped (q : Quotation) (c : Char) (text : List Char) : Option (Position × List Char) :=
  match c with
  | 'b' => some (.plain, '\x08' :: text)
  | 't' => some (.plain, '\t' :: text)
  | 'n' => some (.plain, '\n' :: text)
  | 'f' => some (.plain, '\x0C' :: text)
  | 'r' => some (.plain, '\r' :: text)
  | '"' => some (.plain, '"' :: text)
  | '\\' => some (.plain, '\\' :: text)
  | 'u' => some (.digits 4 0, text)
  | 'U' => some (.digits 8 0, text)
  | c =>
    if q.several = false then none
    else if c = '\n' then some (.fold true, text)
    else if isBlank c then some (.fold false, text)
    else none

/-- One more character of a text. A run of quotes that does not end the text belongs to it. -/
def Quotation.step (q : Quotation) (c : Char) : Position → List Char → Option (Position × List Char)
  | .plain, text => q.plain c text
  | .quotes run, text =>
    if c = q.quote ∧ run < q.longest then some (.quotes (run + 1), text)
    else q.plain c (List.replicate run q.quote ++ text)
  | .escape, text => q.escaped c text
  | .digits left value, text =>
    match hexDigit? c with
    | none => none
    | some d =>
      if left ≤ 1 then (charOfNumber? (16 * value + d)).map fun c => (.plain, c :: text)
      else some (.digits (left - 1) (16 * value + d), text)
  | .fold ended, text =>
    if c = '\n' then some (.fold true, text)
    else if isBlank c then some (.fold ended, text)
    else if ended then q.plain c text
    else none

/-- The text that a run of quotes ends. -/
def Quotation.finish (q : Quotation) (run : Nat) (text : List Char) : String :=
  String.ofList (List.replicate (run - q.width) q.quote ++ text).reverse

/-- The rest of a quoted text. It ends with the first run of quotes that can end it, after the last of them or
after as many as such a run can have; further quotes are then no part of the text. -/
def Quotation.read (q : Quotation) : Position → List Char → List Char → Option (String × List Char)
  | .quotes run, text, [] => if q.ends run then some (q.finish run text, []) else none
  | _, _, [] => none
  | position, text, c :: cs =>
    match position with
    | .quotes run =>
      if q.ends run ∧ ¬(c = q.quote ∧ run < q.longest) then some (q.finish run text, c :: cs)
      else (q.step c (.quotes run) text).bind fun next => q.read next.1 next.2 cs
    | position => (q.step c position text).bind fun next => q.read next.1 next.2 cs

/-- Whether a character begins a quoted text. -/
def isQuote (c : Char) : Bool := c = '"' || c = '\x27'

/-- The rest of a quoted text after its first quote. A line end right after three quotes is no part of it. -/
def quotedText (quote : Char) : List Char → Option (String × List Char)
  | c :: d :: cs =>
    if c = quote ∧ d = quote then
      match cs with
      | '\n' :: cs => Quotation.read ⟨quote, true⟩ .plain [] cs
      | cs => Quotation.read ⟨quote, true⟩ .plain [] cs
    else Quotation.read ⟨quote, false⟩ .plain [] (c :: d :: cs)
  | cs => Quotation.read ⟨quote, false⟩ .plain [] cs

/-! ### Keys -/

/-- Characters of names without quotes. -/
def isBare (c : Char) : Bool := c.isAlphanum || c = '_' || c = '-'

/-- A name, with or without quotes. -/
def simpleKey : List Char → Option (String × List Char)
  | [] => none
  | c :: cs =>
    if isQuote c then Quotation.read ⟨c, false⟩ .plain [] cs
    else if isBare c then
      some (String.ofList (c :: cs.takeWhile isBare), cs.dropWhile isBare)
    else none

/-- So many names at most are joined by dots. -/
def maxNames : Nat := 79

/-- A key: at most so many names joined by dots. Blanks may stand around every name. -/
def dottedKey : Nat → List Char → Option (Path × List Char)
  | 0, _ => none
  | n + 1, cs => do
    let (name, cs) ← simpleKey (skipBlanks cs)
    match skipBlanks cs with
    | '.' :: cs => do
      let (path, cs) ← dottedKey n cs
      some ({ path with outer := name :: path.outer }, cs)
    | cs => some (⟨[], name⟩, cs)

/-- A key as it stands in a document. -/
def key (cs : List Char) : Option (Path × List Char) := dottedKey maxNames cs

end Toml
end PowerRails
