/-
What a shell keeps while it runs commands: where its streams go, its parameters, and the time.
Time passes only in commands that wait. When a limit is reached, the shell and what it started
get a signal; a shell that catches the signal may go on for a moment.
-/
import Gatewatch.Disk.Tree
import Gatewatch.Shell.Command

namespace Gatewatch.Shell

/-- Where output goes. -/
inductive Sink where
  | buffer (number : Nat)
  | node (number : Nat)
  | nowhere
deriving DecidableEq, Repr

/-- Why a command does not go on to the next. -/
inductive Stop where
  | exit (code : Nat)
  | killed (signal : Nat)
  | leaveLoops (levels : Nat)
  | nextRound (levels : Nat)
  | returned (code : Nat)
deriving DecidableEq, Repr

/-- A command in the background: when it ends, and which streams it holds open. -/
structure Job where
  pid : Nat
  finish : Nat
  sinks : List Sink

/-- The state of a shell. -/
structure Session where
  files : Disk.Tree
  directory : String := ""
  clock : Nat := 0
  limit : Option Nat := none
  overtime : Bool := false
  buffers : List (Nat × Octets) := [(1, []), (2, [])]
  out : Sink := .buffer 1
  err : Sink := .buffer 2
  input : Octets := []
  pid : Nat
  title : Octets
  arguments : List Octets := []
  bindings : List (Octets × Octets)
  functions : List (Octets × Command) := []
  traps : List (Nat × Octets) := []
  caught : List Octets := []
  jobs : List Job := []
  status : Nat := 0
  strict : Bool := false
  conditions : Nat := 0
  loops : Nat := 0

/-- Work of a shell. -/
abbrev Run := ExceptT Stop (StateM Session)

namespace Session

/-- The number of the signal that a limit sends, and of the one that cannot be caught. -/
def termination : Nat := 15

/-- The signal that cannot be caught. -/
def certainDeath : Nat := 9

/-- The time in milliseconds between the two. -/
def grace : Nat := 1000

/-- The value of a variable. -/
def valueOf? (s : Session) (name : Octets) : Option Octets :=
  (s.bindings.find? (·.1 == name)).map (·.2)

/-- Sets a variable. -/
def setVariable (s : Session) (name value : Octets) : Session :=
  { s with bindings := (name, value) :: s.bindings.filter (·.1 != name) }

/-- What is done for a signal, if that is known. -/
def trap? (s : Session) (signal : Nat) : Option Octets :=
  (s.traps.find? (·.1 == signal)).map (·.2)

/-- The text in a buffer. -/
def bufferOf (s : Session) (number : Nat) : Octets :=
  ((s.buffers.find? (·.1 == number)).map (·.2)).getD []

/-- Puts output into a sink. -/
def emit (s : Session) (sink : Sink) (cs : Octets) : Session :=
  match sink with
  | .buffer n => { s with buffers := s.buffers.map fun (k, old) => (k, if k = n then old ++ cs else old) }
  | .node n => { s with files := s.files.appendTo n (Octets.toBytes cs) }
  | .nowhere => s

/-- The path that a text names in the directory of the shell. -/
def path (s : Session) (cs : Octets) : String :=
  let text := Octets.toText cs
  if s.directory = "" || text = "" || text.toList.head? = some '/' then text
  else s.directory ++ "/" ++ text

end Session

namespace Run

/-- Prints to the output. -/
def print (cs : Octets) : Run Unit := modify fun s => s.emit s.out cs

/-- Prints a line about a failure. -/
def complain (text : String) : Run Unit :=
  modify fun s => s.emit s.err (Octets.ofText (text ++ "\n"))

/-- Complains in the name of the shell about something on a line. -/
def complainAt (line : Nat) (text : String) : Run Unit := do
  complain (Octets.toText (← get).title ++ ": " ++ toString line ++ ": " ++ text)

/-- What a signal does to the shell itself. -/
def receive (signal : Nat) : Run Unit := do
  let s ← get
  match if signal = Session.certainDeath then none else s.trap? signal with
  | some action => modify fun s => { s with caught := s.caught ++ [action] }
  | none => throw (.killed signal)

/-- Lets time pass; the result is how whatever waits comes to an end. -/
def pass (milliseconds : Nat) : Run Nat := do
  let s ← get
  let later := s.clock + milliseconds
  match s.limit with
  | none =>
    set { s with clock := later }
    return 0
  | some limit =>
    let last := limit + Session.grace
    let endure : Run Nat := do
      if last < later then throw (.killed Session.certainDeath)
      modify ({ · with clock := later })
      return 0
    if s.overtime then endure
    else if later ≤ limit then
      set { s with clock := later }
      return 0
    else
      set { s with clock := limit, overtime := true }
      match s.trap? Session.termination with
      | some [] => endure
      | _ =>
        receive Session.termination
        complain "Terminated"
        return 128 + Session.termination

/-- Does not come to an end. -/
def forever {α : Type} : Run α := do
  let s ← get
  set { s with overtime := s.overtime || s.limit.isSome, clock := max s.clock (s.limit.getD 0) }
  throw (.killed Session.termination)

/-- Does work in a copy of the shell; the result is its status. What it printed and wrote stays,
and so does the time that passed. -/
def apart (w : Run Unit) : Run Nat := do
  let s ← get
  let (ended, t) := w.run.run { s with traps := s.traps.filter (·.2.isEmpty), caught := [] }
  set { s with
    files := t.files, clock := t.clock, overtime := t.overtime, buffers := t.buffers
    input := t.input, jobs := t.jobs }
  match ended with
  | .ok () => return t.status
  | .error (.exit code) | .error (.returned code) => return code
  | .error (.killed signal) =>
    if t.overtime && !s.overtime then
      receive signal
      complain "Terminated"
      return 128 + signal
    else throw (.killed signal)
  | .error _ => return t.status

/-- Does work in a copy of the shell, and takes what it prints. -/
def captured (w : Run Unit) : Run (Nat × Octets) := do
  let s ← get
  let number := s.buffers.foldl (fun n (k, _) => max n (k + 1)) 0
  set { s with buffers := s.buffers ++ [(number, [])] }
  let status ← apart do
    modify ({ · with out := .buffer number })
    w
  let t ← get
  set { t with buffers := t.buffers.filter (·.1 != number) }
  return (status, t.bufferOf number)

/-- Does work in one more loop; `false` when that ends the loop. -/
def round (w : Run Unit) : Run Bool := do
  let loops := (← get).loops
  modify ({ · with loops := loops + 1 })
  let goesOn ← tryCatch (do
    w
    return true) fun stop => do
      modify ({ · with loops })
      match stop with
      | .leaveLoops n => if n ≤ 1 then return false else throw (.leaveLoops (n - 1))
      | .nextRound n => if n ≤ 1 then return true else throw (.nextRound (n - 1))
      | stop => throw stop
  modify ({ · with loops })
  return goesOn

/-- Does work whose failure is an answer. -/
def asCondition (w : Run Unit) : Run Unit := do
  modify fun s => { s with conditions := s.conditions + 1 }
  w
  modify fun s => { s with conditions := s.conditions - 1 }

end Run

end Gatewatch.Shell
