/-
The templates that every detector starts with, in their first order.
-/
import Gatewatch.Date.Template

namespace Gatewatch.Date.Builtin

open Pattern

/-- A decimal digit of any script. -/
def digit : CharSet := .digit true

/-- One of the ten ASCII digits. -/
def plainDigit : CharSet := .range '0' '9'

/-- Exactly `n` characters of a set. -/
def exactly (n : Nat) (s : CharSet) : Node := .run s n (some n) true

/-- At least `low` and at most `high` characters of a set. -/
def upTo (low high : Nat) (s : CharSet) : Node := .run s low (some high) true

/-- Numbers of the groups, by letter. -/
def groupIndex (name : String) : Nat :=
  ["", "Y", "y", "m", "b", "d", "H", "M", "S", "z", "e", "x"].idxOf name

/-- A part of a date. -/
def part (name : String) (node : Node) : Node := .group (groupIndex name) (some name) node

/-- Exactly `n` digits as a part of a date. -/
def number (name : String) (n : Nat) : Node := part name (exactly n digit)

/-- Hour, minute and second, separated by colons. -/
def clock : List Node :=
  [number "H" 2, .char ':', number "M" 2, .char ':', number "S" 2]

/-- Three characters that are no blanks. -/
def word : Node := exactly 3 (CharSet.blank true).compl

/-- The name of a month. -/
def monthName : Node := part "b" word

/-- A month's name, the day behind one or two blanks, and the clock. -/
def monthDayClock : List Node :=
  [monthName, upTo 1 2 (.blank true), part "d" (upTo 1 2 digit), .char ' '] ++ clock

/-- A point and exactly `n` digits, which may be missing. -/
def fraction (n : Nat) : Node := (Node.seq (.char '.') (exactly n digit)).optional true

/-- Three parts of a date, separated by a mark. -/
def threeParts (mark : Char) (a b c : Node) : List Node :=
  [a, .char mark, b, .char mark, c]

/-- The start of the line. -/
def lineStart : Node := .look .textStart

/-- The digits `0` to `f` of an atomic-time label. -/
def labelDigit : CharSet := (CharSet.range '0' '9').union (.range 'a' 'f')

/-- A zone: `Z`, or a sign, hours, a colon and minutes. -/
def zone : Node :=
  (part "z" (.alt (.char 'Z')
    (.concat [.set ((CharSet.single '-').union (.single '+')), exactly 2 plainDigit,
      .char ':', exactly 2 plainDigit]))).optional true

/-- A template that reads calendar fields. -/
def ofFields (name : String) (nodes : List Node) : Template :=
  { name, pattern := ⟨name, .concat nodes⟩, kind := .fields }

/-- The built-in templates. -/
def templates : List Template := [
  ofFields "MONTH Day Hour:Minute:Second" monthDayClock,
  ofFields "WEEKDAY MONTH Day Hour:Minute:Second Year"
    ([word, .char ' '] ++ monthDayClock ++ [.char ' ', number "Y" 4]),
  ofFields "WEEKDAY MONTH Day Hour:Minute:Second" ([word, .char ' '] ++ monthDayClock),
  ofFields "Year/Month/Day Hour:Minute:Second"
    (threeParts '/' (number "Y" 4) (number "m" 2) (number "d" 2) ++ [.char ' '] ++ clock),
  ofFields "Day/Month/Year Hour:Minute:Second"
    (threeParts '/' (number "d" 2) (number "m" 2) (number "Y" 4) ++ [.char ' '] ++ clock),
  ofFields "Day/Month/Year2 Hour:Minute:Second"
    (threeParts '/' (number "d" 2) (number "m" 2) (number "y" 2) ++ [.char ' '] ++ clock),
  ofFields "Day/MONTH/Year:Hour:Minute:Second"
    (threeParts '/' (number "d" 2) monthName (number "Y" 4) ++ [.char ':'] ++ clock),
  ofFields "Month/Day/Year:Hour:Minute:Second"
    (threeParts '/' (number "m" 2) (number "d" 2) (number "Y" 4) ++ [.char ':'] ++ clock),
  ofFields "Year-Month-Day Hour:Minute:Second"
    (threeParts '-' (number "Y" 4) (number "m" 2) (number "d" 2) ++ [.char ' '] ++ clock),
  ofFields "Year.Month.Day Hour:Minute:Second"
    (threeParts '.' (number "Y" 4) (number "m" 2) (number "d" 2) ++ [.char ' '] ++ clock),
  ofFields "Day-MONTH-Year Hour:Minute:Second[.Millisecond]"
    (threeParts '-' (number "d" 2) monthName (number "Y" 4) ++ [.char ' '] ++ clock
      ++ [fraction 3]),
  ofFields "Day-Month-Year Hour:Minute:Second"
    (threeParts '-' (number "d" 2) (number "m" 2) (number "Y" 4) ++ [.char ' '] ++ clock),
  ofFields "Month-Day-Year Hour:Minute:Second[.Millisecond]"
    (threeParts '-' (number "m" 2) (number "d" 2) (number "Y" 4) ++ [.char ' '] ++ clock
      ++ [fraction 3]),
  { name := "TAI64N",
    pattern := ⟨"TAI64N", .seq (.char '@') (part "x" (exactly 24 labelDigit))⟩,
    kind := .tai64n },
  { name := "Epoch",
    pattern := ⟨"Epoch", .concat [lineStart, number "e" 10, fraction 6]⟩,
    kind := .epoch },
  ofFields "ISO 8601"
    ([part "Y" (exactly 4 plainDigit), .char '-', part "m" (upTo 1 2 plainDigit), .char '-',
      part "d" (upTo 1 2 plainDigit), .set .notNewline, part "H" (exactly 2 plainDigit),
      .char ':', part "M" (exactly 2 plainDigit), .char ':', part "S" (exactly 2 plainDigit),
      (Node.seq (.char '.') (.run plainDigit 1 none true)).optional true, zone]),
  ofFields "Hour:Minute:Second" (lineStart :: clock),
  ofFields "<Month/Day/Year@Hour:Minute:Second>"
    ([lineStart, .char '<'] ++ threeParts '/' (number "m" 2) (number "d" 2) (number "y" 2)
      ++ [.char '@'] ++ clock ++ [.char '>'])]

end Gatewatch.Date.Builtin
