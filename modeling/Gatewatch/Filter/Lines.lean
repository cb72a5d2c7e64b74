/-
The buffer of recent lines. Patterns match against the lines joined by newlines, and the lines
that a match touches are taken out, so that no line counts twice.
-/
import Gatewatch.Pattern.Basic
import Gatewatch.Text.Cut

namespace Gatewatch.Filter

/-- Lines joined by newlines. -/
def joinLines : List (List Char) → List Char
  | [] => []
  | [line] => line
  | line :: rest => line ++ '\n' :: joinLines rest

/-- The lines that a span of the joined text does not touch, where the first line starts at
byte `offset`. A line's newline belongs to the line. -/
def removeTouched (span : Pattern.Span) (offset : Nat) : List (List Char) → List (List Char)
  | [] => []
  | line :: rest =>
    let lineStop := offset + Text.width line
    let others := removeTouched span (lineStop + 1) rest
    if span.start ≤ lineStop && offset < span.stop then others else line :: others

/-- The last `count` lines. -/
def lastLines (count : Nat) (lines : List (List Char)) : List (List Char) :=
  lines.drop (lines.length - count)

/-- A line without the part that a span covers. -/
def cutOut (span : Pattern.Span) (line : List Char) : List Char :=
  Text.upTo span.start line ++ Text.beyond span.stop line

end Gatewatch.Filter
