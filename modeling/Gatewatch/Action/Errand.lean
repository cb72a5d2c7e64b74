/-
Errands: what is left to be done of a ban, or of its end, one command at a time. The roll is
locked for one change and the shell for one command, so others may come between any two steps of
an errand. The actions are those there were when it began.
-/
import Gatewatch.Action.Roster

namespace Gatewatch.Action

open Net (Address)

/-- How far an action has come. Its environment is checked, restored if need be and checked
again, before its command is run. -/
inductive Stage where
  | check
  | stop
  | start
  | recheck
  | act
deriving DecidableEq, Repr

/-- How many steps an action may still take. -/
def Stage.ahead : Stage → Nat
  | check => 5
  | stop => 4
  | start => 3
  | recheck => 2
  | act => 1

variable {σ : Type} [Shell σ]

/-- Takes an action one stage further, with one command at most: the next stage, or whether the
action succeeded. -/
def advance (a : Action) (template : String) (event : Ban.Event) :
    Stage → Work σ (Stage ⊕ Bool)
  | .check => do
    if template.isEmpty then
      Work.note .debug "Nothing to do"
      return .inr true
    if ← a.runCheck then return .inl .act
    Work.note .error
      (a.name ++ ": invariant check failed. Trying to restore a sane environment")
    return .inl .stop
  | .stop => do
    let _ ← a.runStop
    return .inl .start
  | .start => do
    let _ ← a.runStart
    return .inl .recheck
  | .recheck => do
    if ← a.runCheck then return .inl .act
    Work.note .error (a.name ++ ": unable to restore environment")
    return .inr false
  | .act => do
    return .inr (← a.perform template (some event))

/-- A ban that is being carried out or, with the other role, lifted: the actions whose turn is
still to come, the stage of the first of them, and whether any action has succeeded. -/
structure Errand where
  role : Role
  ban : Ban
  left : List Action
  stage : Stage := .check
  done : Bool := false

namespace Errand

/-- Sets out for some actions. Without any there is nothing that could fail. -/
def setOut (role : Role) (ban : Ban) (actions : List Action) : Errand :=
  { role, ban, left := actions, done := actions.isEmpty }

/-- How many steps it may still take. -/
def ahead (e : Errand) : Nat :=
  match e.left with
  | [] => 0
  | _ :: rest => e.stage.ahead + Stage.check.ahead * rest.length

/-- Notes that an action failed. -/
def blame (r : Roster) (e : Errand) (a : Action) : Work σ Unit :=
  match e.role with
  | .ban =>
    Work.note .warn (r.about ("Action " ++ a.name ++ " failed to ban " ++ e.ban.source.text))
  | _ =>
    Work.note .error (r.about ("Action " ++ a.name ++ " failed to unban " ++ e.ban.source.text))

/-- One step. -/
def step (r : Roster) (e : Errand) : Work σ Errand := do
  match e.left with
  | [] => return e
  | a :: rest =>
    match ← a.advance (a.command e.role) e.ban.event e.stage with
    | .inl stage => return { e with stage }
    | .inr done =>
      if !done then e.blame r a
      return { e with left := rest, stage := .check, done := e.done || done }

/-- Some steps. -/
def steps (r : Roster) : Nat → Errand → Work σ Errand
  | 0, e => return e
  | n + 1, e => do steps r n (← e.step r)

/-- Steps until one has taken time; the flag tells whether that was so. -/
def stepsAtOnce (r : Roster) : Nat → Errand → Work σ (Errand × Bool)
  | 0, e => return (e, false)
  | n + 1, e => do
    let start ← Work.clock
    let e ← e.step r
    if start < (← Work.clock) then return (e, true)
    stepsAtOnce r n e

end Errand

namespace Roster

/-- Begins to ban the source of an offence. The ban is in the roll from now on. -/
def openBan (r : Roster) (o : Offence) : Work σ (Ban.Effect × Roster × Option Errand) := do
  let (b, effect, r') := r.enter o
  match effect with
  | .banned =>
    Work.note .info (r.about ("Ban " ++ b.source.text))
    return (effect, r', some (.setOut .ban b r.actions))
  | .prolonged =>
    Work.note .info (r.about (b.source.text ++ " already banned, ban prolonged"))
    return (effect, r', none)
  | .alreadyBanned =>
    Work.note .warn (r.about (b.source.text ++ " already banned"))
    return (effect, r', none)

/-- Ends the ban of an offence whose commands were run: it is taken back if every action
failed. -/
def closeBan (r : Roster) (table : Option Offence.Table) (o : Offence) (e : Errand) :
    Work σ (Roster × Option Offence.Table) := do
  if e.done then return (r, table)
  Work.note .warn (r.about ("Every ban command failed for " ++ e.ban.source.text
    ++ "; it will be retried"))
  return (r.withdraw e.ban.source, table.map (restore · o))

/-- Begins to lift the ban of a source. It is off the roll from now on. -/
def openUnban (r : Roster) (source : Address) : Work σ (Outcome (Roster × Errand)) := do
  match r.roll.remove source with
  | none => return .error (.notBanned source.text)
  | some (b, roll) =>
    Work.note .info (r.about ("Unban " ++ b.source.text))
    return .ok ({ r with roll }, .setOut .unban b r.actions)

end Roster

end Gatewatch.Action
