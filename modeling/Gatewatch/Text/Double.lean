/-
Reading doubles from decimal texts: a sign, digits with a point among them, an exponent, or a
name for infinity or for no number. A text stands for the double nearest to what it writes.
-/
import Gatewatch.Text.Decimal

namespace Gatewatch.Text

/-- Takes the sign in front of a text; the flag tells that it is a minus. -/
def takeSign (cs : List Char) : Bool × List Char :=
  match cs with
  | '-' :: rest => (true, rest)
  | '+' :: rest => (false, rest)
  | _ => (false, cs)

/-- The number that decimal digits write. -/
def ofDecimal (digits : List Char) : Nat :=
  digits.foldl (fun n c => 10 * n + (c.toNat - 48)) 0

/-- The exponent that follows the digits of a number. -/
def exponent? (cs : List Char) : Option Int :=
  match cs with
  | [] => some 0
  | c :: rest =>
    if c = 'e' || c = 'E' then
      let (minus, digits) := takeSign rest
      if digits.isEmpty || !digits.all Char.isDigit then none
      else
        let n : Nat := ofDecimal digits
        some (if minus then -(n : Int) else n)
    else none

/-- The double nearest to `m * 10 ^ e`. -/
def nearest (m : Nat) (e : Int) : Float :=
  let size : Int := (toString m).length + e
  if m = 0 || size < -400 then 0.0
  else if 400 < size then 1.0 / 0.0
  else Float.ofScientific m (e < 0) e.natAbs

/-- Reads a double. -/
def double? (text : String) : Option Float :=
  let (minus, cs) := takeSign text.toList
  let signed (f : Float) : Float := if minus then -f else f
  let word := String.ofList (cs.map Char.toLower)
  if word = "inf" || word = "infinity" then some (signed (1.0 / 0.0))
  else if word = "nan" then some (0.0 / 0.0)
  else do
    let whole := cs.takeWhile Char.isDigit
    let rest := cs.dropWhile Char.isDigit
    let (part, rest) := match rest with
      | '.' :: rest => (rest.takeWhile Char.isDigit, rest.dropWhile Char.isDigit)
      | _ => ([], rest)
    guard (!whole.isEmpty || !part.isEmpty)
    let e ← exponent? rest
    return signed (nearest (ofDecimal (whole ++ part)) (e - part.length))

/-- The text of a double that need not be finite. -/
def doubleText (f : Float) : String :=
  if f.isNaN then "NaN"
  else if f.isInf then (if f < 0.0 then "-inf" else "inf")
  else Decimal.plainText f.toBits

end Gatewatch.Text
