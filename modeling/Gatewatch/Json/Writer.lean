/-
Writing JSON without blanks. Inside a text, quotes, backslashes and control characters are
escaped and everything else stands for itself.
-/
import Gatewatch.Json.Value

namespace Gatewatch.Json

/-- A digit of a number below sixteen. -/
def hexDigit (n : Nat) : Char :=
  if n < 10 then Char.ofNat (48 + n) else Char.ofNat (87 + n)

/-- How a character is written inside a text. -/
def escapeChar (c : Char) : List Char :=
  if c = '"' then ['\\', '"']
  else if c = '\\' then ['\\', '\\']
  else if c = '\n' then ['\\', 'n']
  else if c = '\r' then ['\\', 'r']
  else if c = '\t' then ['\\', 't']
  else if c = '\x08' then ['\\', 'b']
  else if c = '\x0c' then ['\\', 'f']
  else if c.toNat < 32 then
    ['\\', 'u', '0', '0', hexDigit (c.toNat / 16), hexDigit (c.toNat % 16)]
  else [c]

/-- A text in quotes. -/
def quote (s : String) : String :=
  "\"" ++ String.ofList (s.toList.flatMap escapeChar) ++ "\""

/-- The text of a number. -/
def Number.text : Number → String
  | int n => toString n
  | float bits => Text.Decimal.pointText bits

mutual

/-- The text of a value. -/
def Value.text : Value → String
  | .null => "null"
  | .bool b => if b then "true" else "false"
  | .num n => n.text
  | .str s => quote s
  | .arr items => "[" ++ itemsText true items ++ "]"
  | .obj members => "\x7b" ++ membersText true members ++ "\x7d"

/-- The items of an array, separated by commas; `first` tells that none came before. -/
def itemsText (first : Bool) : List Value → String
  | [] => ""
  | v :: rest => (if first then "" else ",") ++ v.text ++ itemsText false rest

/-- The members of an object, separated by commas. -/
def membersText (first : Bool) : List (String × Value) → String
  | [] => ""
  | (k, v) :: rest =>
    (if first then "" else ",") ++ quote k ++ ":" ++ v.text ++ membersText false rest

end

end Gatewatch.Json
