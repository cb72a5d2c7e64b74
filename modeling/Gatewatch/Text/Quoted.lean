/-
Texts in quotes, as messages show them. A quote or a backslash gets a backslash in front;
the null character, tabs and line ends have letters of their own; what could not be seen,
and marks that would join the quote before them, is written by number.
-/
import Gatewatch.Unicode.Classes

namespace Gatewatch.Text

/-- A character by its number. -/
def escapeNumber (c : Char) : List Char :=
  ['\\', 'u', '\x7b'] ++ Nat.toDigits 16 c.toNat ++ ['\x7d']

/-- How a character is written inside quotes. -/
def quotedChar (c : Char) : List Char :=
  if c = '"' then ['\\', '"']
  else if c = '\\' then ['\\', '\\']
  else if c.toNat = 0 then ['\\', '0']
  else if c = '\t' then ['\\', 't']
  else if c = '\n' then ['\\', 'n']
  else if c = '\r' then ['\\', 'r']
  else if Unicode.isExtend c || !Unicode.isPrintable c then escapeNumber c
  else [c]

/-- A text in quotes. -/
def quoted (s : String) : String :=
  String.ofList ('"' :: s.toList.flatMap quotedChar ++ ['"'])

/-- A list of quoted texts in brackets. -/
def quotedList (items : List String) : String :=
  "[" ++ ", ".intercalate (items.map quoted) ++ "]"

end Gatewatch.Text
