/-
Where the log goes and how much of it. Both can be changed while the program runs. A log in a
file is written behind what the file holds, and one for the syslog is sent line by line.
-/
import Gatewatch.Disk.Name
import Gatewatch.Disk.Tree
import Gatewatch.Error
import Gatewatch.Log.Record
import Gatewatch.Text.Trim

namespace Gatewatch.Log

/-- The level of notes that a number stands for. -/
def level? : Nat → Outcome Level
  | 0 | 1 => .ok .error
  | 2 => .ok .warn
  | 3 => .ok .info
  | 4 => .ok .debug
  | n => .error (.badLogLevel n)

/-- Where the log goes. -/
inductive Target where
  | stdout
  | stderr
  | syslog
  | file (path : String)
deriving DecidableEq, Repr

namespace Target

/-- The text of a target. -/
def text : Target → String
  | stdout => "STDOUT"
  | stderr => "STDERR"
  | syslog => "SYSLOG"
  | file path => path

/-- Reads a target; blanks around it do not count. -/
def read (text : String) : Outcome Target :=
  let word := Text.trim text
  if word = "" then .error .emptyLogTarget
  else if word = "STDOUT" then .ok stdout
  else if word = "STDERR" then .ok stderr
  else if word = "SYSLOG" then .ok syslog
  else .ok (file word)

/-- Whether two targets are the same place. -/
def same : Target → Target → Bool
  | file p, file q => Disk.samePath p q
  | s, t => s == t

end Target

/-- The syslog of the system: why it cannot be connected to, if it cannot, and the messages that
it was sent, the latest last. -/
structure Syslog where
  refusal? : Option String := some Disk.Fault.notFound.text
  sent : List (Level × String) := []
deriving DecidableEq, Repr

/-- An open target. -/
inductive Sink where
  | stdout
  | stderr
  | syslog
  | file (node : Nat)
deriving DecidableEq, Repr

/-- Opens a target. -/
def Sink.openAt (files : Disk.Tree) (target : Target) (daemon : Syslog := {}) :
    Outcome (Sink × Disk.Tree) :=
  match target with
  | .stdout => .ok (stdout, files)
  | .stderr => .ok (stderr, files)
  | .syslog => match daemon.refusal? with
    | none => .ok (syslog, files)
    | some reason => .error (.noSyslog reason)
  | .file path => match files.openWrite path with
    | .ok (node, files) => .ok (file node, files)
    | .error e => .error (.unopenableLog path e)

/-- The level and the target of the log. One that is not installed shows no notes; `stdout` and
`stderr` are the files that stand behind the two streams, if any do. -/
structure Control where
  level : Nat := 3
  target : Target := .stderr
  sink : Sink := .stderr
  installed : Bool := false
  stdout : Option Nat := none
  stderr : Option Nat := none
deriving DecidableEq, Repr

namespace Control

/-- Installs a log; `stdout` and `stderr` are the files behind the two streams. -/
def install (files : Disk.Tree) (level : Nat) (text : String) (stdout stderr : Option Nat)
    (daemon : Syslog := {}) : Outcome (Control × Disk.Tree) := do
  let _ ← level? level
  let target ← Target.read text
  let (sink, files) ← Sink.openAt files target daemon
  return ({ level, target, sink, installed := true, stdout, stderr }, files)

/-- Sets the level. -/
def setLevel (c : Control) (n : Nat) : Noted (Outcome Control) :=
  match level? n with
  | .error e => return .error e
  | .ok _ => do
    note .info ("Changed logging level to " ++ toString n)
    return .ok { c with level := n }

/-- Sets the target, and leaves the old one if the new one cannot be opened. -/
def setTarget (c : Control) (files : Disk.Tree) (text : String) (daemon : Syslog := {}) :
    Noted (Outcome (Control × Disk.Tree)) :=
  match Target.read text with
  | .error e => return .error e
  | .ok target =>
    if c.target.same target then return .ok (c, files)
    else match Sink.openAt files target daemon with
      | .error e => return .error e
      | .ok (sink, files) => do
        note .info ("Changed logging target to " ++ target.text ++ " (was " ++ c.target.text
          ++ ")")
        return .ok ({ c with target, sink }, files)

/-- Whether a note is shown. -/
def shows (c : Control) (n : Note) : Bool :=
  match level? c.level with
  | .ok level => n.level.rank ≤ level.rank
  | .error _ => false

/-- The file that the target is, if it is one. -/
def node? (c : Control) : Option Nat :=
  match c.sink with
  | .file node => some node
  | .stdout => c.stdout
  | .stderr => c.stderr
  | .syslog => none

/-- Writes the pieces of one event to the target, if that is a file. -/
def write (c : Control) (files : Disk.Tree) (pieces : List String) : Disk.Tree :=
  match c.node? with
  | some node => files.appendTo node (Text.Utf8.encode (String.join pieces))
  | none => files

/-- Writes a note to the target, if the log is installed and shows it. -/
def record (c : Control) (files : Disk.Tree) (now : Int) (n : Note) : Disk.Tree :=
  if c.installed && c.shows n then c.write files [line now n] else files

/-- Sends a note to the syslog, if the log goes there, is installed and shows it. -/
def send (c : Control) (daemon : Syslog) (now : Int) (n : Note) : Syslog :=
  if c.installed && c.shows n && c.sink = .syslog then
    { daemon with sent := daemon.sent ++ [(n.level, Text.trimEnd (line now n))] }
  else daemon

end Control

end Gatewatch.Log
