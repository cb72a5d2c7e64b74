/-
Jails whose bans take time. While a command of a ban runs, its jail bans nothing else, but it
goes on to read its files, and requests are served. When no command takes time, a jail wakes as
`Jail.wakes` tells.
-/
import Gatewatch.Action.Errand
import Gatewatch.Jail.Basic

namespace Gatewatch

/-- A ban that a jail is carrying out. -/
structure Jail.Ongoing where
  offence : Offence
  errand : Action.Errand

namespace Jail

variable {σ : Type} [Shell σ]

/-- Ends a ban whose commands were run, and lifts the bans that have ended. -/
def close (j : Jail) (u : Ongoing) : Work σ Jail := do
  let (roster, table) ← j.roster.closeBan (some j.filter.table) u.offence u.errand
  let j := { j with roster, filter := { j.filter with table := table.getD j.filter.table } }
  j.expire

/-- Goes on with a ban, to its end or until a command has taken time. -/
def goOn (j : Jail) (u : Ongoing) : Work σ (Jail × Option Ongoing) := do
  let (errand, waits) ← u.errand.stepsAtOnce j.roster u.errand.ahead
  if waits then return (j, some { u with errand })
  return (← j.close { u with errand }, none)

/-- Takes a ban to its end. -/
def carryThrough (j : Jail) (u : Ongoing) : Work σ Jail := do
  j.close { u with errand := ← u.errand.steps j.roster u.errand.ahead }

/-- Bans the sources of some offences like `banAll`, until a command has taken time. Those that
were not reached are in the queue again. -/
def banAtOnce : List Offence → Jail → Work σ (Jail × Option Ongoing)
  | [], j => return (j, none)
  | o :: rest, j => do
    let (_, roster, errand?) ← j.roster.openBan o
    let j := { j with roster }
    match errand? with
    | none => banAtOnce rest (← j.expire)
    | some errand =>
      match ← j.goOn { offence := o, errand } with
      | (j, none) => banAtOnce rest j
      | (j, some u) => return ({ j with queue := rest }, some u)

/-- The roster goes on with the ban that it is carrying out, if there is one, and then empties the
queue, until a command has taken time. -/
def wakeRosterAtOnce (j : Jail) (u? : Option Ongoing) : Work σ (Jail × Option Ongoing) := do
  let (j, u?) ← match u? with
    | some u => j.goOn u
    | none => pure (j, none)
  if u?.isSome || j.idle then return (j, u?)
  match ← banAtOnce j.queue { j with queue := [] } with
  | (j, none) => return (← j.expire, none)
  | (j, some u) => return (j, some u)

/-- A number of wakes like `wakes`, until a command of a ban has taken time. -/
def wakesAtOnce : Nat → Jail → Option Ongoing → Work σ (Jail × Option Ongoing)
  | 0, j, u? => return (← j.begin, u?)
  | n + 1, j, u? => do
    if !j.running then wakesAtOnce n j u?
    else
      match ← (← (← j.begin).wakeFilter).wakeRosterAtOnce u? with
      | (j, none) => wakesAtOnce n j none
      | (j, some u) => return (j, some u)

end Jail

end Gatewatch
