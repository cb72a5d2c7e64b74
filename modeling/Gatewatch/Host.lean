/-
What surrounds the program: the clock, the files, the log, what resolves names, reports changes
and reads encodings, and a shell that runs commands. The shell is any type with an operation that
takes a command and tells how it ended; commands may change files and the shell's own state.
-/
import Gatewatch.Filter.Watcher
import Gatewatch.Log.Control
import Gatewatch.Net.HostName
import Gatewatch.Text.Charset

namespace Gatewatch

/-- How a command ended. -/
inductive Finish where
  /-- It did not start. -/
  | unspawned (reason : String)
  /-- It ended with an exit code, or by a signal. `overtime` is the limit in milliseconds for
  which it was ended, if it was. -/
  | ended (code : Option Int) (stdout stderr : String) (overtime : Option Nat)
deriving DecidableEq, Repr

namespace Finish

/-- The exit code, if there is one. -/
def code? : Finish → Option Int
  | unspawned _ => none
  | ended code _ _ _ => code

/-- Whether the command succeeded: it ended by itself with exit code 0. -/
def isSuccess : Finish → Bool
  | ended (some 0) _ _ none => true
  | _ => false

end Finish

/-- Running commands. One that takes longer than a limit in milliseconds is ended. A shell may
tell how many milliseconds its commands took together. -/
class Shell (σ : Type) where
  run : Option Nat → String → Disk.Tree × σ → Finish × Disk.Tree × σ
  clock : σ → Nat := fun _ => 0

/-- What surrounds the program. `limit` is the time in milliseconds that a command may take, and
`runs` the number of commands that were run. -/
structure Host (σ : Type) where
  now : Int
  files : Disk.Tree
  shell : σ
  log : Log.Control := {}
  limit : Option Nat := none
  runs : Nat := 0
  syslog : Log.Syslog := {}
  names : Net.Resolver := Net.numericHosts
  notifier : Filter.Notifier := {}
  decoders : Text.Decoders := Text.asciiOnly

/-- The surroundings after a note: an installed log shows it. -/
def Host.record {σ : Type} (h : Host σ) (n : Note) : Host σ :=
  { h with
    files := h.log.record h.files h.now n
    syslog := h.log.send h.syslog h.now n }

/-- Work that looks at its surroundings, changes them, and leaves notes. -/
abbrev Work (σ : Type) := StateT (Host σ) Noted

namespace Work

variable {σ : Type}

/-- Leaves a note. -/
def note (level : Level) (text : String) : Work σ Unit :=
  fun h => do
    Gatewatch.note level text
    return ((), h.record ⟨level, text⟩)

/-- The result of a computation that only leaves notes. -/
def ofNoted {α : Type} (x : Noted α) : Work σ α :=
  fun h => ⟨(x.value, x.notes.foldl Host.record h), x.notes⟩

/-- The time. -/
def now : Work σ Int := do return (← get).now

/-- The files. -/
def files : Work σ Disk.Tree := do return (← get).files

/-- What resolves host names. -/
def names : Work σ Net.Resolver := do return (← get).names

/-- What reads the encodings with characters of several bytes. -/
def decoders : Work σ Text.Decoders := do return (← get).decoders

/-- Runs a command. -/
def run [Shell σ] (command : String) : Work σ Finish := fun h =>
  let (finish, files, shell) := Shell.run h.limit command (h.files, h.shell)
  return (finish, { h with files, shell, runs := h.runs + 1 })

/-- The time that the commands took so far. -/
def clock [Shell σ] : Work σ Nat := do return Shell.clock (← get).shell

end Work

end Gatewatch
