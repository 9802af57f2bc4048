import RpkiOverlap.Text.Numeral

/-! # Writing JSON

Compact JSON text.  In a string, quotes, backslashes and control characters are escaped, by
their short escape where there is one and by four hexadecimal digits otherwise; every other
character stands for itself.
-/
namespace RpkiOverlap.Json
open Text

/-- A character between the quotes of a string. -/
def printChar (c : Char) : List Char :=
  if c = '"' then ['\\', '"']
  else if c = '\\' then ['\\', '\\']
  else if c = '\x08' then ['\\', 'b']
  else if c = '\x0c' then ['\\', 'f']
  else if c = '\n' then ['\\', 'n']
  else if c = '\r' then ['\\', 'r']
  else if c = '\t' then ['\\', 't']
  else if c.toNat < 0x20 then
    ['\\', 'u', '0', '0', Nat.digitChar (c.toNat / 16), Nat.digitChar (c.toNat % 16)]
  else [c]

/-- A string in quotes. -/
def printString (s : String) : List Char := '"' :: s.toList.flatMap printChar ++ ['"']

/-- A list of strings in brackets. -/
def printStrings (ss : List String) : List Char :=
  '[' :: [','].intercalate (ss.map printString) ++ [']']

/-- A member of an object: its name and the text of its value. -/
def printMember (name : String) (value : List Char) : List Char :=
  printString name ++ ':' :: value

/-- Members in braces. -/
def printMembers (members : List (List Char)) : List Char :=
  '{' :: [','].intercalate members ++ ['}']

/-- A string in quotes, or `null`. -/
def printOptional : Option String → List Char
  | none => ['n', 'u', 'l', 'l']
  | some s => printString s

end RpkiOverlap.Json
