/-
Servers. A server has jails by name, and takes requests that change them.
-/
import Gatewatch.Config.Basic
import Gatewatch.Jail.Setting

namespace Gatewatch

/-- A server: its jails in the order of their names, what new jails get, the file that it was
configured from, and whether it was asked to shut down. -/
structure Server where
  jails : List Jail := []
  capacity : Nat := 1024
  zone : Int := 0
  configPath : Option String := none
  shutdown : Bool := false

namespace Server

/-- The names of the jails. -/
def names (s : Server) : List String := s.jails.map Jail.name

/-- The jail of a name. -/
def jail? (s : Server) (name : String) : Option Jail := s.jails.find? (·.name == name)

/-- The jail of a name, or the error that there is none. -/
def jail (s : Server) (name : String) : Outcome Jail :=
  match s.jail? name with
  | some j => .ok j
  | none => .error (.unknownJail name)

/-- Puts a jail in its place in the order of names. -/
def insertJail (j : Jail) : List Jail → List Jail
  | [] => [j]
  | k :: rest => if j.name < k.name then j :: k :: rest else k :: insertJail j rest

/-- Puts a jail in the place of the one with its name. -/
def replaceJail (j : Jail) : List Jail → List Jail
  | [] => []
  | k :: rest => if k.name = j.name then j :: rest else k :: replaceJail j rest

/-- Puts a jail in the place of the one with its name. -/
def replace (s : Server) (j : Jail) : Server := { s with jails := replaceJail j s.jails }

/-- Adds a jail. The server comes with an error, too, as it is by then. -/
def addJail (s : Server) (files : Disk.Tree) (name : String) (backend : Filter.Backend)
    (notifier : Filter.Notifier := {}) : Noted (Outcome Unit × Server) :=
  if name = Config.reservedName then return (.error (.reservedName name), s)
  else if (s.jail? name).isSome then return (.error (.duplicateJail name), s)
  else do
    match ← Jail.make files name backend s.capacity s.zone notifier with
    | .ok j => return (.ok (), { s with jails := insertJail j s.jails })
    | .error e => return (.error e, s)

/-- Starts a jail. -/
def startJail (s : Server) (name : String) : Noted (Outcome Unit × Server) := do
  match s.jail name with
  | .error e => return (.error e, s)
  | .ok j =>
    match ← j.start with
    | .ok j => return (.ok (), s.replace j)
    | .error e => return (.error e, s)

variable {σ : Type} [Shell σ]

/-- Stops a jail and forgets it. -/
def stopJail (s : Server) (name : String) : Work σ (Outcome Unit × Server) := do
  match s.jail name with
  | .error e => return (.error e, s)
  | .ok j =>
    let _ ← j.stop
    return (.ok (), { s with jails := s.jails.filter (·.name != name) })

/-- Stops jails in order. -/
def stopEach : List Jail → Work σ Unit
  | [] => return ()
  | j :: rest => do
    let _ ← j.stop
    stopEach rest

/-- Stops all jails and forgets them. -/
def stopAll (s : Server) : Work σ Server := do
  if s.jails.isEmpty then return s
  Work.note .info "Stopping all jails"
  stopEach s.jails
  return { s with jails := [] }

/-- Stops all jails, and asks for the shutdown. -/
def quit (s : Server) : Work σ Server := do
  return { (← s.stopAll) with shutdown := true }

/-- Wakes jails a number of times each. -/
def wakeEach (count : Nat) : List Jail → Work σ (List Jail)
  | [] => return []
  | j :: rest => do
    let j ← j.wakes count
    return j :: (← wakeEach count rest)

/-- Wakes all jails a number of times. -/
def wakes (s : Server) (count : Nat) : Work σ Server := do
  return { s with jails := ← wakeEach count s.jails }

/-- The state of the server for a reader. -/
def status (s : Server) : Json.Value :=
  .arr [.arr [.str "Number of jail", .ofNat s.names.length],
    .arr [.str "Jail list", .str (", ".intercalate s.names)]]

end Server

end Gatewatch
