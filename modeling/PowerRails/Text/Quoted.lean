import PowerRails.Text.Hex
import PowerRails.Text.Mark

/-! # Quoted text

Text between double quotes, as diagnostic listings show it. A quote or a backslash has a backslash before it,
the common control characters have their letters, and any other character that leaves no mark of its own is
written as its code point in hexadecimal, so that one line shows every text without loss. -/

namespace PowerRails.Text

/-- A character inside quotes. -/
def quotedChar (c : Char) : List Char :=
  if c = '"' then ['\\', '"']
  else if c = '\\' then ['\\', '\\']
  else if c = '\n' then ['\\', 'n']
  else if c = '\r' then ['\\', 'r']
  else if c = '\t' then ['\\', 't']
  else if c.toNat = 0 then ['\\', '0']
  else if isMark c then [c]
  else ['\\', 'u', '\x7b'] ++ Hex.digits c.toNat ++ ['\x7d']

/-- A text in double quotes. -/
def quoted (s : String) : String := String.ofList ('"' :: s.toList.flatMap quotedChar ++ ['"'])

/-- A text that may be missing. -/
def quotedOption : Option String → String
  | none => "None"
  | some s => "Some(" ++ quoted s ++ ")"

end PowerRails.Text
