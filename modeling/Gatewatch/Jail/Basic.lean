/-
Jails. A jail is a filter that finds offences and a roster of actions that bans their sources,
with a queue between them. While a jail runs, each of the two wakes from time to time: the
filter reads its files and puts what is due into the queue, and the roster bans what it finds
there and lifts the bans that have ended.
-/
import Gatewatch.Action.Roster
import Gatewatch.Filter.Basic

namespace Gatewatch

/-- A jail. `running` tells that it was started, and `begun` that its actions were started
since. -/
structure Jail where
  name : String
  backend : Filter.Backend
  filter : Filter
  roster : Action.Roster
  queue : List Offence := []
  capacity : Nat := 1024
  idle : Bool := false
  running : Bool := false
  begun : Bool := false

namespace Jail

/-- Names of this many bytes are too long for some firewalls. -/
def longName : Nat := 20

/-- Makes a jail. -/
def make (files : Disk.Tree) (name : String) (backend : Filter.Backend) (capacity : Nat)
    (zone : Int) (notifier : Filter.Notifier := {}) : Noted (Outcome Jail) :=
  if name.isEmpty then return .error .emptyJailName
  else do
    if longName ≤ name.utf8ByteSize then
      note .warn ("Jail name " ++ Text.quoted name ++ " is " ++ toString name.utf8ByteSize
        ++ " characters long; firewall chain names built from it may be truncated")
    if capacity = 0 then return .error .noQueue
    match ← Filter.Watcher.create files backend notifier with
    | .error e => return .error e
    | .ok watcher =>
      note .info ("Creating new jail '" ++ name ++ "'")
      return .ok {
        name, backend, capacity
        filter := { jail := name, detector := Date.Detector.builtin zone, watcher }
        roster := { jail := name } }

/-- A line about the jail. -/
def about (j : Jail) (text : String) : String := "[" ++ j.name ++ "] " ++ text

/-- Starts the jail. -/
def start (j : Jail) : Noted (Outcome Jail) :=
  if j.running then return .error (.alreadyRunning j.name)
  else do
    note .info ("Jail '" ++ j.name ++ "' started")
    return .ok { j with running := true, begun := false }

/-- Suspends the jail, or resumes it. -/
def setIdle (j : Jail) (idle : Bool) : Noted Jail := do
  note .info (j.about (if idle then "Idle on" else "Idle off"))
  return { j with idle }

/-- Puts an offence into the queue, unless the queue is full. -/
def put? (j : Jail) (o : Offence) : Option Jail :=
  if j.queue.length < j.capacity then some { j with queue := j.queue ++ [o] } else none

/-- Takes an offence from the queue. -/
def take? (j : Jail) : Option (Offence × Jail) :=
  match j.queue with
  | [] => none
  | o :: rest => some (o, { j with queue := rest })

-- ============================================================== wakes

variable {σ : Type} [Shell σ]

/-- Acts on what happened to the files. Unless the jail becomes idle by it, the filter reads those
that changed, and puts what is due into the queue. -/
def heed (j : Jail) (event : Filter.Event) : Work σ Jail := do
  let (filter, tripped) ← Work.ofNoted (Filter.noteMissing event j.filter.paths j.filter)
  if tripped then return { j with filter, idle := true }
  let filter ← if event.modified.isEmpty then pure filter else do
    let (filter, n) ← filter.processFiles event.modified
    if 0 < n then Work.note .debug (j.about (toString n ++ " new fail event(s)"))
    pure filter
  let (filter, due) ← Work.ofNoted filter.drain
  let filter ← Work.ofNoted (filter.tidy (← Work.now))
  return { j with filter, queue := j.queue ++ due }

/-- The filter looks at its files, and acts on what happened to them unless the jail is idle. -/
def wakeFilter (j : Jail) : Work σ Jail := do
  let (watcher, event) ← Work.ofNoted (j.filter.watcher.poll (← Work.files))
  let j := { j with filter := { j.filter with watcher } }
  if j.idle then return j else j.heed event

/-- Lifts the bans that have ended. -/
def expire (j : Jail) : Work σ Jail := do
  let (_, roster) ← j.roster.unbanExpired (← Work.now)
  return { j with roster }

/-- Bans the sources of some offences, and lifts the bans that have ended after each. -/
def banAll : List Offence → Jail → Work σ Jail
  | [], j => return j
  | o :: rest, j => do
    let (_, roster, table) ← j.roster.ban (some j.filter.table) o
    let j := { j with roster, filter := { j.filter with table := table.getD j.filter.table } }
    banAll rest (← j.expire)

/-- The roster empties the queue and lifts the bans that have ended, unless the jail is idle. -/
def wakeRoster (j : Jail) : Work σ Jail := do
  if j.idle then return j
  (← banAll j.queue { j with queue := [] }).expire

/-- Starts the actions, if that was not done since the jail was started. -/
def begin (j : Jail) : Work σ Jail := do
  if !j.running || j.begun then return j
  Work.note .debug (j.about ("Filter worker started (" ++ j.filter.watcher.name ++ ")"))
  Work.note .debug (j.about "Action worker started")
  j.roster.start
  return { j with begun := true }

/-- One wake of both sides of a running jail. -/
def wake (j : Jail) : Work σ Jail := do
  if !j.running then return j
  (← (← j.begin).wakeFilter).wakeRoster

/-- A number of wakes. -/
def wakes : Nat → Jail → Work σ Jail
  | 0, j => j.begin
  | n + 1, j => do wakes n (← j.wake)

/-- Stops the jail: all bans are lifted, and the stop commands run. -/
def stop (j : Jail) : Work σ Jail := do
  if !j.running then
    Work.note .debug ("Jail '" ++ j.name ++ "' is not running")
    return j
  let j ← j.begin
  Work.note .debug (j.about "Filter worker stopped")
  let (_, roster) ← j.roster.flush
  roster.stop
  Work.note .debug (j.about "Action worker stopped")
  Work.note .info ("Jail '" ++ j.name ++ "' stopped")
  return { j with roster, running := false, begun := false }

/-- The state of the jail for a reader. -/
def status (j : Jail) : Json.Value :=
  .arr [.arr [.str "filter", j.filter.status], .arr [.str "action", j.roster.status]]

end Jail

end Gatewatch
