import PowerRails.Binary64.Nearest
import PowerRails.Toml.Text

/-! # Numbers, truth values and moments in TOML

A scalar is a word, and the whole word has to be one of them. The one scalar that has two words is a moment
whose day and time have a blank between them. -/

namespace PowerRails
namespace Toml

/-! ### Digits -/

/-- Digits, between any two of which there may be an underscore. -/
def grouped (digit : Char → Bool) : List Char → Option (List Char)
  | [] => none
  | [c] => if digit c then some [c] else none
  | c :: '_' :: cs => if digit c then (grouped digit cs).map (c :: ·) else none
  | c :: d :: cs => if digit c then (grouped digit (d :: cs)).map (c :: ·) else none

/-- The number with these digits, most significant first. -/
def numberOf (base : Nat) (digits : List Char) : Nat :=
  digits.foldl (fun n c => base * n + (hexDigit? c).getD 0) 0

/-- The digits of the part of a number in front of the point: no zero in front of other digits. -/
def wholeDigits (cs : List Char) : Option (List Char) := do
  let digits ← grouped Char.isDigit cs
  if digits.head? = some '0' ∧ digits.length ≠ 1 then none else some digits

/-- Splits a sign off; the flag tells that it is a minus sign. -/
def signed : List Char → Bool × List Char
  | '-' :: cs => (true, cs)
  | '+' :: cs => (false, cs)
  | cs => (false, cs)

/-! ### Integers -/

/-- The integers that can be written. -/
def isInteger (n : Int) : Bool := decide (-0x8000000000000000 ≤ n) && decide (n < 0x8000000000000000)

/-- An integer that can be written. -/
def integerItem (n : Int) : Option Item := if isInteger n then some (.integer n) else none

/-- An integer in base ten with or without a sign, or in base sixteen, eight or two without one. -/
def integer : List Char → Option Item
  | '0' :: 'x' :: cs => (grouped (fun c => (hexDigit? c).isSome) cs).bind fun ds => integerItem (numberOf 16 ds)
  | '0' :: 'o' :: cs => (grouped (fun c => '0' ≤ c && c ≤ '7') cs).bind fun ds => integerItem (numberOf 8 ds)
  | '0' :: 'b' :: cs => (grouped (fun c => c = '0' || c = '1') cs).bind fun ds => integerItem (numberOf 2 ds)
  | cs =>
    let (negative, cs) := signed cs
    (wholeDigits cs).bind fun ds => integerItem (if negative then -(numberOf 10 ds : Int) else numberOf 10 ds)

/-! ### Numbers with a fraction or an exponent -/

/-- An exponent, with or without a sign. -/
def exponent (cs : List Char) : Option Int :=
  let (negative, cs) := signed cs
  (grouped Char.isDigit cs).map fun ds => if negative then -(numberOf 10 ds : Int) else numberOf 10 ds

/-- The digits of a fraction, with the exponent after it. -/
def fraction (cs : List Char) : Option (List Char × Int) := do
  let (part, rest) := cs.span fun c => c ≠ 'e' && c ≠ 'E'
  let digits ← grouped Char.isDigit part
  match rest with
  | [] => some (digits, 0)
  | _ :: cs => (exponent cs).map fun e => (digits, e)

/-- A decimal without a sign, with a fraction, an exponent or both. -/
def decimal (cs : List Char) : Option Binary64.Decimal := do
  let (part, rest) := cs.span fun c => c ≠ '.' && c ≠ 'e' && c ≠ 'E'
  let whole ← wholeDigits part
  match rest with
  | [] => none
  | '.' :: cs => do
    let (digits, e) ← fraction cs
    some ⟨numberOf 10 (whole ++ digits), e - digits.length⟩
  | _ :: cs => do some ⟨numberOf 10 whole, ← exponent cs⟩

/-- A number with a fraction or an exponent, or one of the words for values that are not finite. Decimals that are
too large are refused, but only if they are positive. -/
def real (cs : List Char) : Option Item :=
  let (negative, word) := signed cs
  if word = ['i', 'n', 'f'] then some (.real (Binary64.infinity negative))
  else if word = ['n', 'a', 'n'] then some (.real Binary64.undefined)
  else do
    let value := Binary64.nearest negative (← decimal word)
    if value = Binary64.infinity false then none else some (.real value)

/-! ### Moments -/

/-- The number that two digits stand for. -/
def twoDigits? (a b : Char) : Option Nat := if a.isDigit && b.isDigit then some (numberOf 10 [a, b]) else none

/-- Two digits that denote a number from `low` to `high`. -/
def twoDigitsWithin (low high : Nat) (a b : Char) : Bool :=
  match twoDigits? a b with
  | some n => low ≤ n && n ≤ high
  | none => false

/-- The number of days of a month. -/
def daysOfMonth (year month : Nat) : Nat :=
  if month = 2 then (if year % 4 = 0 ∧ (year % 100 ≠ 0 ∨ year % 400 = 0) then 29 else 28)
  else if month = 4 ∨ month = 6 ∨ month = 9 ∨ month = 11 then 30
  else 31

/-- What is left after a day. -/
def afterDay : List Char → Option (List Char)
  | a :: b :: c :: d :: '-' :: e :: f :: '-' :: g :: h :: cs => do
    let century ← twoDigits? a b
    let year ← twoDigits? c d
    let month ← twoDigits? e f
    if 1 ≤ month ∧ month ≤ 12 ∧ twoDigitsWithin 1 (daysOfMonth (100 * century + year) month) g h then some cs
    else none
  | _ => none

/-- What is left after a time of day. A second may be a leap second, and may have a fraction. -/
def afterTime : List Char → Option (List Char)
  | a :: b :: ':' :: c :: d :: ':' :: e :: f :: cs =>
    if twoDigitsWithin 0 23 a b && twoDigitsWithin 0 59 c d && twoDigitsWithin 0 60 e f then
      match cs with
      | '.' :: c :: cs => if c.isDigit then some (cs.dropWhile Char.isDigit) else none
      | cs => some cs
    else none
  | _ => none

/-- A distance from universal time, or nothing. -/
def isOffset : List Char → Bool
  | [] => true
  | [c] => c = 'Z' || c = 'z'
  | [s, a, b, ':', c, d] => (s = '+' || s = '-') && twoDigitsWithin 0 23 a b && twoDigitsWithin 0 59 c d
  | _ => false

/-- A time of day with or without a distance from universal time. -/
def isTimeOfMoment (cs : List Char) : Bool :=
  match afterTime cs with
  | some cs => isOffset cs
  | none => false

/-- A day, a time of day, or a day with a time. -/
def isMoment (cs : List Char) : Bool :=
  match afterDay cs with
  | some [] => true
  | some (c :: cs) => (c = 'T' || c = 't') && isTimeOfMoment cs
  | none => afterTime cs = some []

/-! ### Scalars -/

/-- The item that a word denotes. -/
def scalarOfWord (cs : List Char) : Option Item :=
  if cs = ['t', 'r', 'u', 'e'] then some (.boolean true)
  else if cs = ['f', 'a', 'l', 's', 'e'] then some (.boolean false)
  else if isMoment cs then some (.moment (String.ofList cs))
  else (real cs).or (integer cs)

/-- Characters of the words that denote scalars. -/
def isWord (c : Char) : Bool := c.isAlphanum || c = '+' || c = '-' || c = '_' || c = '.' || c = ':'

/-- A scalar. A word that a blank separates from a day is its time. -/
def scalar (cs : List Char) : Option (Item × List Char) :=
  let (word, rest) := cs.span isWord
  match afterDay word, rest with
  | some [], ' ' :: more =>
    let (time, rest) := more.span isWord
    if time = [] then some (.moment (String.ofList word), more)
    else if isTimeOfMoment time then some (.moment (String.ofList (word ++ ' ' :: time)), rest)
    else none
  | _, _ => (scalarOfWord word).map fun item => (item, rest)

end Toml
end PowerRails
