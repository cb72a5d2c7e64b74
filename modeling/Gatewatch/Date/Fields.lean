/-
From the parts of a written date to an instant. `Fields` holds the texts of the parts that a
template found; `Fields.time?` reads them.

A date with a written year from 2000 on is that date. With a month and a day but no such
year, it is the latest of the last five years' dates that does not lie ahead of now. Without
a month or a day it is the last time that the clock showed the time. Parts of the clock that
are missing count as zero.

A zone is the number of seconds by which its clocks are ahead of UTC.
-/
import Gatewatch.Date.Civil
import Gatewatch.Date.Month
import Gatewatch.Pattern.Basic
import Gatewatch.Text.Numeral
import Gatewatch.Word

namespace Gatewatch.Date

/-- The texts of the parts of a date, by their letters: year, two-digit year, month by number
and by name, day, hour, minute, second and zone. -/
structure Fields where
  year : Option (List Char) := none
  shortYear : Option (List Char) := none
  month : Option (List Char) := none
  monthName : Option (List Char) := none
  day : Option (List Char) := none
  hour : Option (List Char) := none
  minute : Option (List Char) := none
  second : Option (List Char) := none
  zone : Option (List Char) := none
deriving DecidableEq, Repr

-- =============================================================== zones

/-- The part of a text between two bytes, if characters start or end there. -/
def bytes? (cs : List Char) (start stop : Nat) : Option (List Char) :=
  let front := Text.upTo start cs
  let part := Text.upTo (stop - start) (cs.drop front.length)
  if Text.width front = start ∧ Text.width part = stop - start then some part else none

/-- Reads an offset from UTC: `Z`, or a sign, two digits of hours and two of minutes, colons
left out. An offset of a day or more is none. -/
def offset? (cs : List Char) : Option Int :=
  if cs = ['Z'] then some 0
  else do
    let (sign, rest) ← match cs with
      | '+' :: rest => some ((1 : Int), rest)
      | '-' :: rest => some (-1, rest)
      | _ => none
    let digits := rest.filter (· != ':')
    let hours ← Text.signed? 32 (← bytes? digits 0 2)
    let minutes ← Text.signed? 32 (← bytes? digits 2 4)
    let seconds := sign * (hours * 3600 + minutes * 60)
    if -daySeconds < seconds ∧ seconds < daySeconds then some seconds else none

/-- The date that clocks of a zone show at an instant. -/
def localDate? (zone now : Int) : Option Civil :=
  if inRange now then some (Civil.ofDay ((now + zone) / daySeconds)) else none

/-- The instant at which clocks of a zone show a date and a time of day. -/
def instant (zone : Int) (date : Civil) (clock : Int) : Int :=
  date.toDay * daySeconds + clock - zone

-- =============================================================== parts

namespace Fields

/-- A part of the clock; a missing one is zero. -/
def clockPart? (part : Option (List Char)) : Option Nat :=
  match part with
  | some text => Text.unsigned? (Word.size 32) text
  | none => some 0

/-- The time of day, in seconds. -/
def clock? (f : Fields) : Option Int := do
  Date.clock? (← clockPart? f.hour) (← clockPart? f.minute) (← clockPart? f.second)

/-- The zone that the fields name, else the given one. -/
def zone? (f : Fields) (zone : Int) : Option Int :=
  match f.zone with
  | some text => offset? text
  | none => some zone

/-- The year, if one is written. A long year that is no number counts as none, a short one
spoils the date. -/
def year? (f : Fields) : Option (Option Int) :=
  match f.year, f.shortYear with
  | some text, _ => some (Text.signed? 32 text)
  | none, some text => (Text.signed? 32 text).map fun short =>
    some (if short < 69 then 2000 + short else 1900 + short)
  | none, none => some none

/-- The month, if one is written. A number that cannot be read counts as none, an unknown
name spoils the date. -/
def month? (f : Fields) : Noted (Option (Option Nat)) :=
  match f.month, f.monthName with
  | some text, _ => return some (Text.unsigned? (Word.size 32) text)
  | none, some name => do
    match ← Date.month? (String.ofList name) with
    | some month => return some (some month)
    | none => return none
  | none, none => return some none

/-- The day of the month, if one is written. -/
def day? (f : Fields) : Option Nat := f.day.bind (Text.unsigned? (Word.size 32))

end Fields

-- =============================================================== times

/-- The last instant up to now at which clocks showed the time. -/
def lastClock (zone now : Int) (today : Civil) (clock : Int) : Int :=
  let ts := instant zone today clock
  if now < ts then ts - daySeconds else ts

/-- The instant at which a month, a day and a time come up in the year `back` years before
`year`, unless that lies ahead of now or the year lacks the day. -/
def comesUp? (zone now year : Int) (month day : Nat) (clock : Int) (back : Nat) : Option Int :=
  match Civil.ofFields? (year - back) month day with
  | none => none
  | some date =>
    let ts := instant zone date clock
    if now < ts then none else some ts

/-- The latest time that a month, a day and a time came up, in the year `year` or one of the
four before it. -/
def lastComingUp? (zone now year : Int) (month day : Nat) (clock : Int) : Option Int :=
  (List.range 5).findSome? (comesUp? zone now year month day clock)

/-- Whether a month, a day and a time of the current year lie ahead of now. -/
def liesAhead (zone now year : Int) (month day : Nat) (clock : Int) : Bool :=
  match Civil.ofFields? year month day with
  | some date => now < instant zone date clock
  | none => false

/-- The instant that the fields stand for, in a zone unless they name one. -/
def Fields.time? (f : Fields) (zone now : Int) : Noted (Option Int) := do
  match f.clock?, f.zone? zone, f.year? with
  | some clock, some zone, some year =>
    match ← f.month? with
    | none => return none
    | some month =>
      match localDate? zone now, month, f.day? with
      | none, _, _ => return none
      | some today, some month, some day =>
        match year.filter (2000 ≤ ·) with
        | some year =>
          return (Civil.ofFields? year month day).map fun date => instant zone date clock
        | none =>
          if liesAhead zone now today.year month day clock then
            note .debug ("Correcting deduced year from " ++ toString today.year ++ " to "
              ++ toString (today.year - 1))
          return lastComingUp? zone now today.year month day clock
      | some today, _, _ => return some (lastClock zone now today clock)
  | _, _, _ => return none

end Gatewatch.Date
