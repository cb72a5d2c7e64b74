/-
Bans. A ban lasts from its start for a number of seconds, or for ever.
-/
import Gatewatch.Offence.Basic
import Gatewatch.Word

namespace Gatewatch

/-- A ban; a negative duration is for ever. -/
structure Ban where
  source : Net.Address
  start : Int
  duration : Int
  attempts : Nat := 0
  lines : List String := []
deriving DecidableEq

namespace Ban

/-- The latest instant that can be told. -/
def latest : Int := Word.size 63 - 1

/-- The ban of an offence. -/
def ofOffence (o : Offence) (start duration : Int) : Ban :=
  { source := o.source, start, duration, attempts := o.attempts, lines := o.lines }

/-- Whether the ban has no end. -/
def isPermanent (b : Ban) : Bool := b.duration < 0

/-- The end of the ban, if it has one. -/
def finish? (b : Ban) : Option Int :=
  if b.isPermanent then none else some (min (b.start + b.duration) latest)

/-- Whether the ban has ended. -/
def isExpired (b : Ban) (now : Int) : Bool :=
  match b.finish? with
  | some finish => finish ≤ now
  | none => false

/-- What a command may say about a ban. -/
structure Event where
  ip : String
  time : Int
  failures : Nat
  lines : String
deriving DecidableEq, Repr

/-- The event of a ban. -/
def event (b : Ban) : Event :=
  { ip := b.source.text, time := b.start, failures := b.attempts
    lines := "\n".intercalate b.lines }

/-- The value that goes by a name. -/
def Event.get? (e : Event) (name : String) : Option String :=
  match name with
  | "ip" => some e.ip
  | "time" => some (toString e.time)
  | "failures" => some (toString e.failures)
  | "matches" => some e.lines
  | _ => none

end Ban

end Gatewatch
