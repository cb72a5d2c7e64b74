/-
Decimal text of binary floating-point numbers. A finite double is `m * 2 ^ q`; it stands for
the real numbers nearer to it than to its neighbours (the ends included when `m` is even).
`shortest` gives the decimal number with the fewest digits among those, and of two with as
many digits the nearer one. Everything is exact integer arithmetic.
-/
import Gatewatch.Word

namespace Gatewatch.Text.Decimal

/-- A finite double without its sign: `mantissa * 2 ^ exponent`. `atEdge` tells that the next
smaller double lies only half as far away as the next greater one. -/
structure Binary where
  mantissa : Nat
  exponent : Int
  atEdge : Bool

/-- Takes the sign off the bits of a double. -/
def isNegative (bits : UInt64) : Bool := bits.toNat / Word.size 63 == 1

/-- The double that the bits hold, unless they hold an infinity or no number. -/
def finite? (bits : UInt64) : Option Binary :=
  let fraction : Nat := bits.toNat % Word.size 52
  let field : Nat := bits.toNat / Word.size 52 % 2048
  if field = 2047 then none
  else if field = 0 then some ⟨fraction, -1074, false⟩
  else some ⟨Word.size 52 + fraction, (field : Int) - 1075, fraction == 0 && field != 1⟩

/-- A decimal number: `digits * 10 ^ exponent`. -/
structure Number where
  digits : Nat
  exponent : Int
deriving DecidableEq, Repr

/-- The greatest `k` with `10 ^ k` at most `a / b`; `fuel` bounds how far below one that may
be. -/
def magnitude (a b : Nat) : Nat → Int
  | 0 => 0
  | fuel + 1 =>
    if b ≤ a then ((Nat.toDigits 10 (a / b)).length : Int) - 1
    else magnitude (a * 10) b fuel - 1

/-- Drops trailing zeros; `fuel` bounds how many. -/
def Number.trimmed (d : Number) : Nat → Number
  | 0 => d
  | fuel + 1 =>
    if d.digits ≠ 0 ∧ d.digits % 10 = 0 then
      Number.trimmed ⟨d.digits / 10, d.exponent + 1⟩ fuel
    else d

/-- The candidate with `n` digits that stands for the double, if there is one. -/
def candidate? (b : Binary) (n : Nat) : Option Number :=
  let quarters := 4 * b.mantissa
  let unit : Int := b.exponent - 2
  let scaled (x : Nat) : Nat := if 0 ≤ unit then x * Word.size unit.toNat else x
  let den : Nat := if 0 ≤ unit then 1 else Word.size unit.natAbs
  let value := scaled quarters
  let high := scaled (quarters + 2)
  let low := scaled (if b.atEdge then quarters - 1 else quarters - 2)
  let inclusive := b.mantissa % 2 == 0
  let k : Int := magnitude value den 400 - (n : Int) + 1
  let below : Nat :=
    if k < 0 then value * Nat.pow 10 k.natAbs / den else value / (den * Nat.pow 10 k.toNat)
  let scaled (c : Nat) : Nat × Nat :=
    if k < 0 then (c * den, Nat.pow 10 k.natAbs) else (c * Nat.pow 10 k.toNat * den, 1)
  let inside (c : Nat) : Bool :=
    let (x, y) := scaled c
    if inclusive then low * y ≤ x && x ≤ high * y else low * y < x && x < high * y
  let distance (c : Nat) : Nat :=
    let (x, y) := scaled c
    (x - value * y) + (value * y - x)
  let above := below + 1
  match inside below, inside above with
  | true, true =>
    if distance below < distance above then some ⟨below, k⟩
    else if distance above < distance below then some ⟨above, k⟩
    else if below % 2 = 0 then some ⟨below, k⟩ else some ⟨above, k⟩
  | true, false => some ⟨below, k⟩
  | false, true => some ⟨above, k⟩
  | false, false => none

/-- The shortest decimal number that stands for the double, nearest to it among those. -/
def shortest (b : Binary) : Number :=
  if b.mantissa = 0 then ⟨0, 0⟩
  else ((List.range 17).findSome? fun i => candidate? b (i + 1)).getD ⟨0, 0⟩ |>.trimmed 400

/-- The digits of a number. -/
def digitsText (n : Nat) : String := String.ofList (Nat.toDigits 10 n)

/-- A run of zeros. -/
def zeros (n : Nat) : String := String.ofList (List.replicate n '0')

/-- A decimal number in positional notation, without a point when it is whole. -/
def Number.positional (d : Number) : String :=
  let digits := digitsText d.digits
  let n := digits.length
  if 0 ≤ d.exponent then digits ++ zeros d.exponent.toNat
  else
    let places := d.exponent.natAbs
    if places < n then
      String.ofList (digits.toList.take (n - places)) ++ "."
        ++ String.ofList (digits.toList.drop (n - places))
    else "0." ++ zeros (places - n) ++ digits

/-- A decimal number as data formats write it: positional from `1e-5` up to sixteen places
before the point, always with a point, and scientific beyond. -/
def Number.withPoint (d : Number) : String :=
  let digits := digitsText d.digits
  let n := digits.length
  let point : Int := n + d.exponent
  if d.digits = 0 then "0.0"
  else if 0 ≤ d.exponent ∧ point ≤ 16 then d.positional ++ ".0"
  else if -5 < point ∧ point ≤ 16 then d.positional
  else
    let tail := String.ofList (digits.toList.drop 1)
    String.ofList (digits.toList.take 1) ++ (if n = 1 then "" else "." ++ tail)
      ++ "e" ++ toString (point - 1)

/-- The text of a double in positional notation. -/
def plainText (bits : UInt64) : String :=
  let sign := if isNegative bits then "-" else ""
  match finite? bits with
  | some b => sign ++ (shortest b).positional
  | none => if bits.toNat % Word.size 52 = 0 then sign ++ "inf" else "NaN"

/-- The text of a finite double with a point or an exponent. -/
def pointText (bits : UInt64) : String :=
  let sign := if isNegative bits then "-" else ""
  match finite? bits with
  | some b => sign ++ (shortest b).withPoint
  | none => "null"

end Gatewatch.Text.Decimal
