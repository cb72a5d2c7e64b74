/-
Reading JSON. Arrays and objects nest at most 127 deep. An integer that fits neither a
signed nor an unsigned 64-bit number, and minus zero, is read as a double; a double too
large to hold is an error.

Each reader takes the characters that are left and returns what it read with the characters
behind it. A value starts with a character of its own, so the number of characters is fuel
enough.
-/
import Gatewatch.Json.Value
import Gatewatch.Word

namespace Gatewatch.Json

/-- The blanks between the tokens of a document. -/
def isBlank (c : Char) : Bool := c == ' ' || c == '\n' || c == '\t' || c == '\r'

/-- Skips blanks. -/
def skip (cs : List Char) : List Char := cs.dropWhile isBlank

-- =============================================================== texts

/-- The value of a hexadecimal digit. -/
def hexValue? (c : Char) : Option Nat :=
  if '0' ≤ c && c ≤ '9' then some (c.toNat - 48)
  else if 'a' ≤ c && c ≤ 'f' then some (c.toNat - 87)
  else if 'A' ≤ c && c ≤ 'F' then some (c.toNat - 55)
  else none

/-- Reads four hexadecimal digits. -/
def readUnit : List Char → Option (Nat × List Char)
  | a :: b :: c :: d :: rest => do
    let a ← hexValue? a
    let b ← hexValue? b
    let c ← hexValue? c
    let d ← hexValue? d
    return (((a * 16 + b) * 16 + c) * 16 + d, rest)
  | _ => none

/-- Reads a character after a backslash and `u`: one unit, or two that make a pair. -/
def readUnicode (cs : List Char) : Option (Char × List Char) := do
  let (high, rest) ← readUnit cs
  if 0xDC00 ≤ high && high ≤ 0xDFFF then none
  else if 0xD800 ≤ high && high ≤ 0xDBFF then
    match rest with
    | '\\' :: 'u' :: rest =>
      let (low, rest) ← readUnit rest
      guard (0xDC00 ≤ low && low ≤ 0xDFFF)
      return (Char.ofNat (0x10000 + (high - 0xD800) * 1024 + (low - 0xDC00)), rest)
    | _ => none
  else return (Char.ofNat high, rest)

/-- Reads a character after a backslash. -/
def readEscape : List Char → Option (Char × List Char)
  | '"' :: rest => some ('"', rest)
  | '\\' :: rest => some ('\\', rest)
  | '/' :: rest => some ('/', rest)
  | 'b' :: rest => some ('\x08', rest)
  | 'f' :: rest => some ('\x0c', rest)
  | 'n' :: rest => some ('\n', rest)
  | 'r' :: rest => some ('\r', rest)
  | 't' :: rest => some ('\t', rest)
  | 'u' :: rest => readUnicode rest
  | _ => none

/-- Reads a text after its opening quote; `done` holds what was read, the latest first. -/
def readText : Nat → List Char → List Char → Option (String × List Char)
  | 0, _, _ => none
  | _, _, [] => none
  | fuel + 1, done, c :: rest =>
    if c = '"' then some (String.ofList done.reverse, rest)
    else if c = '\\' then
      match readEscape rest with
      | some (e, rest) => readText fuel (e :: done) rest
      | none => none
    else if c.toNat < 32 then none
    else readText fuel (c :: done) rest

-- ============================================================= numbers

/-- A power of ten as a double. -/
def powerOfTen (k : Nat) : Float := Float.ofScientific 1 false k

/-- The double `significand * 10 ^ exponent`, computed by one multiplication or division
where the power of ten can be held, and by dividing step by step below that. The result may
be off by a rounding when the significand has more than fifteen digits. -/
def scaled? : Nat → Float → Int → Option Float
  | 0, _, _ => none
  | fuel + 1, f, exponent =>
    if exponent.natAbs ≤ 308 then
      if 0 ≤ exponent then
        let g := f * powerOfTen exponent.toNat
        if g.isInf then none else some g
      else some (f / powerOfTen exponent.natAbs)
    else if f == 0.0 then some f
    else if 0 ≤ exponent then none
    else scaled? fuel (f / powerOfTen 308) (exponent + 308)

/-- The double with a sign, a significand below `2 ^ 64` and a decimal exponent. -/
def double? (negative : Bool) (significand : Nat) (exponent : Int) : Option Number := do
  let fuel := exponent.natAbs / 308 + 2
  let f ← scaled? (min fuel 16) significand.toUInt64.toFloat exponent
  return .float (if negative then -f else f).toBits

/-- Takes digits into a significand as long as it stays below `2 ^ 64`: the significand, how
many digits it took, and the characters behind those. -/
def takeDigits : Nat → Nat → List Char → Nat × Nat × List Char
  | significand, count, [] => (significand, count, [])
  | significand, count, c :: rest =>
    if c.isDigit then
      let next := significand * 10 + (c.toNat - 48)
      if next < Word.size 64 then takeDigits next (count + 1) rest
      else (significand, count, c :: rest)
    else (significand, count, c :: rest)

/-- The number of digits at the front, and the characters behind them. -/
def countDigits (cs : List Char) : Nat × List Char :=
  ((cs.takeWhile Char.isDigit).length, cs.dropWhile Char.isDigit)

/-- Reads an exponent after its letter, and builds the double. -/
def readExponent (negative : Bool) (significand : Nat) (start : Int) (cs : List Char) :
    Option (Number × List Char) := do
  let (down, cs) := match cs with
    | '+' :: rest => (false, rest)
    | '-' :: rest => (true, rest)
    | _ => (false, cs)
  let digits := cs.takeWhile Char.isDigit
  let rest := cs.dropWhile Char.isDigit
  guard !digits.isEmpty
  let n : Nat := digits.foldl (fun n c => n * 10 + (c.toNat - 48)) 0
  if n < Word.size 31 then
    return (← double? negative significand (if down then start - n else start + n), rest)
  else if significand ≠ 0 && !down then none
  else return (← double? negative 0 0, rest)

/-- Reads what may follow the digits of a number that has become a double. -/
def readTail (negative : Bool) (significand : Nat) (exponent : Int) (cs : List Char) :
    Option (Number × List Char) :=
  match cs with
  | 'e' :: rest | 'E' :: rest => readExponent negative significand exponent rest
  | _ => do return (← double? negative significand exponent, cs)

/-- Reads the digits after the point. -/
def readFraction (negative : Bool) (significand : Nat) (start : Int) (cs : List Char) :
    Option (Number × List Char) := do
  let (significand, taken, rest) := takeDigits significand 0 cs
  guard (0 < taken || (countDigits rest).1 ≠ 0)
  readTail negative significand (start - taken) (countDigits rest).2

/-- Reads a number after its sign. -/
def readNumber (negative : Bool) (cs : List Char) : Option (Number × List Char) := do
  let (significand, taken, rest) := takeDigits 0 0 cs
  guard (0 < taken)
  guard (!(cs.head? == some '0' && 1 < (countDigits cs).1))
  let (extra, rest) := countDigits rest
  match rest with
  | '.' :: rest => readFraction negative significand extra rest
  | 'e' :: _ | 'E' :: _ => readTail negative significand extra rest
  | _ =>
    if extra ≠ 0 then readTail negative significand extra rest
    else if !negative then return (.int significand, rest)
    else if 0 < significand && significand ≤ Word.size 63 then return (.int (-significand), rest)
    else return (.float (-significand.toUInt64.toFloat).toBits, rest)

-- ============================================================== values

/-- Reads a given word. -/
def readWord (word : String) (cs : List Char) : Option (List Char) :=
  if word.toList.isPrefixOf cs then some (cs.drop word.length) else none

mutual

/-- Reads a value; `depth` more levels may open. -/
def readValue : Nat → Nat → List Char → Option (Value × List Char)
  | 0, _, _ => none
  | fuel + 1, depth, cs =>
    match skip cs with
    | 'n' :: rest => (readWord "ull" rest).map (.null, ·)
    | 't' :: rest => (readWord "rue" rest).map (.bool true, ·)
    | 'f' :: rest => (readWord "alse" rest).map (.bool false, ·)
    | '"' :: rest => (readText (rest.length + 1) [] rest).map fun (s, rest) => (.str s, rest)
    | '-' :: rest => (readNumber true rest).map fun (n, rest) => (.num n, rest)
    | '[' :: rest =>
      if depth = 0 then none
      else match skip rest with
        | ']' :: rest => some (.arr [], rest)
        | rest => readItems fuel (depth - 1) [] rest
    | '\x7b' :: rest =>
      if depth = 0 then none
      else match skip rest with
        | '\x7d' :: rest => some (.obj [], rest)
        | rest => readMembers fuel (depth - 1) [] rest
    | rest => (readNumber false rest).map fun (n, rest) => (.num n, rest)

/-- Reads the items of an array up to its end; `done` holds earlier ones, the latest
first. -/
def readItems : Nat → Nat → List Value → List Char → Option (Value × List Char)
  | 0, _, _, _ => none
  | fuel + 1, depth, done, cs =>
    match readValue fuel depth cs with
    | none => none
    | some (v, rest) =>
      match skip rest with
      | ',' :: rest => readItems fuel depth (v :: done) rest
      | ']' :: rest => some (.arr (v :: done).reverse, rest)
      | _ => none

/-- Reads the members of an object up to its end. -/
def readMembers : Nat → Nat → List (String × Value) → List Char → Option (Value × List Char)
  | 0, _, _, _ => none
  | fuel + 1, depth, done, cs =>
    match skip cs with
    | '"' :: rest =>
      match readText (rest.length + 1) [] rest with
      | none => none
      | some (key, rest) =>
        match skip rest with
        | ':' :: rest =>
          match readValue fuel depth rest with
          | none => none
          | some (v, rest) =>
            match skip rest with
            | ',' :: rest => readMembers fuel depth (put key v done) rest
            | '\x7d' :: rest => some (.obj (put key v done), rest)
            | _ => none
        | _ => none
    | _ => none

end

/-- The greatest depth to which arrays and objects nest. -/
def maxDepth : Nat := 127

/-- Reads a whole document. -/
def parse? (text : String) : Option Value :=
  let cs := text.toList
  match readValue (2 * cs.length + 2) maxDepth cs with
  | some (v, rest) => if (skip rest).isEmpty then some v else none
  | none => none

end Gatewatch.Json
