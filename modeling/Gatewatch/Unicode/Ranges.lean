/-
Sets of code points as sorted ranges. The tables of this folder are written as text,
one range per word in hexadecimal (`41-5a`, or `5f` for a single code point), so that
they stay readable beside the standard they come from; `Ranges.ofText` reads them and
`Ranges.contains` looks a code point up by halving.
-/

namespace Gatewatch.Unicode

/-- Sorted, disjoint, inclusive ranges of code points. -/
abbrev Ranges := Array (Nat × Nat)

namespace Ranges

/-- The value of a hexadecimal digit; a character that is none counts as zero. -/
def hexDigit (c : Char) : Nat :=
  if '0' ≤ c && c ≤ '9' then c.toNat - 48
  else if 'a' ≤ c && c ≤ 'f' then c.toNat - 87
  else 0

/-- The number that a run of hexadecimal digits writes. -/
def hexNumber (digits : List Char) : Nat :=
  digits.foldl (fun n c => 16 * n + hexDigit c) 0

/-- One word of a table: `a-b`, or `a` for the range of a single code point. -/
def ofWord (word : List Char) : Nat × Nat :=
  let low := word.takeWhile (· != '-')
  let high := (word.dropWhile (· != '-')).drop 1
  (hexNumber low, if high.isEmpty then hexNumber low else hexNumber high)

/-- The words of a table, which blanks and line ends separate. -/
def words (text : String) : List (List Char) :=
  (text.toList.splitOnP fun c => c == ' ' || c == '\n').filter fun word => !word.isEmpty

/-- Reads a table of ranges. -/
def ofText (text : String) : Ranges :=
  ((words text).map ofWord).toArray

/-- Looks `x` up among the ranges with index in `[low, high)`. -/
def containsBetween (table : Ranges) (x low high : Nat) : Bool :=
  if low < high then
    let middle := (low + high) / 2
    match table[middle]? with
    | none => false
    | some (first, last) =>
      if x < first then containsBetween table x low middle
      else if last < x then containsBetween table x (middle + 1) high
      else true
  else false
termination_by high - low

/-- Whether `x` lies in one of the ranges. -/
def contains (table : Ranges) (x : Nat) : Bool :=
  containsBetween table x 0 table.size

end Ranges

end Gatewatch.Unicode
