/-
The actions of a jail, and the bans that they carry out. A new ban counts only if some action
succeeded; a ban that every action failed to carry out is taken back, and its offence is
counted again, one attempt short of what a ban needs.
-/
import Gatewatch.Action.Basic
import Gatewatch.Ban.Roll
import Gatewatch.Json.Value
import Gatewatch.Offence.Table

namespace Gatewatch.Action

open Net (Address)

/-- The actions of a jail and its bans. -/
structure Roster where
  jail : String
  actions : List Action := []
  roll : Ban.Roll := {}

namespace Roster

/-- A line about the jail. -/
def about (r : Roster) (text : String) : String := "[" ++ r.jail ++ "] " ++ text

-- ======================================================== the actions

/-- The action of a name. -/
def action? (r : Roster) (name : String) : Option Action := r.actions.find? (·.name == name)

/-- The action of a name, or the error that there is none. -/
def action (r : Roster) (name : String) : Outcome Action :=
  match r.action? name with
  | some a => .ok a
  | none => .error (.unknownAction name)

/-- Puts an action in the place of the one with its name. -/
def replace (r : Roster) (a : Action) : Roster :=
  { r with actions := r.actions.map fun b => if b.name = a.name then a else b }

/-- Adds an action without commands. -/
def addAction (r : Roster) (name : String) : Noted (Outcome Roster) :=
  if (r.action? name).isSome then return .error (.duplicateAction name r.jail)
  else do
    note .debug (r.about ("Added action " ++ name))
    return .ok { r with actions := r.actions ++ [{ name }] }

/-- Takes an action away. -/
def removeAction (r : Roster) (name : String) : Outcome Roster := do
  let a ← r.action name
  return { r with actions := r.actions.filter (·.name != a.name) }

/-- The names of the actions. -/
def names (r : Roster) : List String := r.actions.map Action.name

/-- The name of the action that was added last. -/
def lastName? (r : Roster) : Option String := r.names.getLast?

/-- Sets how long new bans last. -/
def setBanTime (r : Roster) (secs : Int) : Noted Roster := do
  note .info (r.about ("Set banTime = " ++ toString secs))
  return { r with roll := { r.roll with banTime := secs } }

-- =========================================================== the bans

variable {σ : Type} [Shell σ]

/-- Runs the ban commands of some actions. The result tells whether any succeeded. -/
def banAll (r : Roster) (b : Ban) : List Action → Work σ Bool
  | [] => return false
  | a :: rest => do
    let done ← a.runBan b.event
    if !done then
      Work.note .warn (r.about ("Action " ++ a.name ++ " failed to ban " ++ b.source.text))
    let others ← banAll r b rest
    return done || others

/-- Carries a ban out. A jail without actions has nothing that could fail. -/
def carryOut (r : Roster) (b : Ban) : Work σ Bool :=
  if r.actions.isEmpty then return true else r.banAll b r.actions

/-- Runs the unban commands of some actions. -/
def unbanAll (r : Roster) (b : Ban) : List Action → Work σ Unit
  | [] => return ()
  | a :: rest => do
    if !(← a.runUnban b.event) then
      Work.note .error (r.about ("Action " ++ a.name ++ " failed to unban " ++ b.source.text))
    unbanAll r b rest

/-- Carries the end of a ban out. -/
def lift (r : Roster) (b : Ban) : Work σ Unit := do
  Work.note .info (r.about ("Unban " ++ b.source.text))
  r.unbanAll b r.actions

/-- Counts an offence again whose ban failed, one attempt short of a ban. -/
def restore (t : Offence.Table) (o : Offence) : Offence.Table :=
  let keep := min o.attempts (t.maxRetry - 1)
  if 0 < keep then t.add { o with attempts := keep } else t

/-- Enters the ban of an offence into the roll, before anything is carried out. -/
def enter (r : Roster) (o : Offence) : Ban × Ban.Effect × Roster :=
  let b := r.roll.banOf o o.time
  let (effect, roll) := r.roll.add b
  (b, effect, { r with roll })

/-- Takes the ban of a source back, if there is one. -/
def withdraw (r : Roster) (source : Address) : Roster :=
  match r.roll.remove source with
  | some (_, roll) => { r with roll }
  | none => r

/-- Bans the source of an offence. The table, if there is one, takes the offence back when the
ban cannot be carried out. -/
def ban (r : Roster) (table : Option Offence.Table) (o : Offence) :
    Work σ (Ban.Effect × Roster × Option Offence.Table) := do
  let (b, effect, r') := r.enter o
  match effect with
  | .banned =>
    Work.note .info (r.about ("Ban " ++ b.source.text))
    if ← r.carryOut b then return (effect, r', table)
    Work.note .warn (r.about ("Every ban command failed for " ++ b.source.text
      ++ "; it will be retried"))
    return (effect, r'.withdraw b.source, table.map (restore · o))
  | .prolonged =>
    Work.note .info (r.about (b.source.text ++ " already banned, ban prolonged"))
    return (effect, r', table)
  | .alreadyBanned =>
    Work.note .warn (r.about (b.source.text ++ " already banned"))
    return (effect, r', table)

/-- Lifts some bans, one after the other. -/
def liftAll (r : Roster) : List Ban → Work σ Unit
  | [] => return ()
  | b :: rest => do
    r.lift b
    liftAll r rest

/-- Lifts the bans that have ended; the number tells how many there were. -/
def unbanExpired (r : Roster) (now : Int) : Work σ (Nat × Roster) := do
  let (gone, roll) := r.roll.expire now
  r.liftAll gone
  return (gone.length, { r with roll })

/-- Lifts all bans. -/
def flush (r : Roster) : Work σ (Nat × Roster) := do
  Work.note .debug (r.about "Flush ban list")
  let (gone, roll) := r.roll.flush
  r.liftAll gone
  return (gone.length, { r with roll })

/-- Lifts the ban of a source. -/
def unban (r : Roster) (source : Address) : Work σ (Outcome Roster) := do
  match r.roll.remove source with
  | none => return .error (.notBanned source.text)
  | some (b, roll) =>
    r.lift b
    return .ok { r with roll }

-- ==================================================== start and stop

/-- Runs a command of each action, twice if it fails, and reports what failed twice. -/
def runEach (r : Roster) (verb : String) (run : Action → Work σ Bool) :
    List Action → Work σ Unit
  | [] => return ()
  | a :: rest => do
    if !(← run a) then
      if !(← run a) then
        Work.note .error
          (r.about ("Failed to " ++ verb ++ " action " ++ a.name ++ " after one retry"))
    runEach r verb run rest

/-- Runs the start commands. -/
def start (r : Roster) : Work σ Unit := r.runEach "start" Action.runStart r.actions

/-- Runs the stop commands. -/
def stop (r : Roster) : Work σ Unit := r.runEach "stop" Action.runStop r.actions

/-- The state of the bans for a reader. -/
def status (r : Roster) : Json.Value :=
  .arr [.arr [.str "Currently banned", .ofNat r.roll.size],
    .arr [.str "Total banned", .ofNat r.roll.total],
    .arr [.str "IP list", .strings (r.roll.sources.map Address.text)]]

end Roster

end Gatewatch.Action
