/-
The file that names the process of the server. It is locked while the server runs, so that a
second server does not start with the same file, and removed at the end.
-/
import Gatewatch.Disk.Name
import Gatewatch.Host
import Gatewatch.Report

namespace Gatewatch

/-- A file with the number of the process, held by its node. -/
structure PidFile where
  path : String
  node : Nat
deriving DecidableEq, Repr

namespace PidFile

/-- The line that names a process. -/
def line (pid : Nat) : String := toString pid ++ "\n"

/-- Whether a node is locked by one of some files that are held. -/
def locked (held : List PidFile) (node : Nat) : Bool := held.any (·.node == node)

/-- The report of a file that another server holds. -/
def heldReport (path : String) : Report :=
  { message := "Another server already holds " ++ path ++ ".\nIf you believe this is an error, "
      ++ "stop the other server or remove the file." }

/-- Takes a file for a process, and makes it if there is none, beside those already held. -/
def create {σ : Type} (held : List PidFile) (pid : Nat) (path : String) :
    Work σ (Except Report PidFile) := do
  let directory := Disk.parent? path
  match (← Work.files).makeParents directory with
  | .error e =>
    return .error {
      message := "Failed to create PID file directory: " ++ directory.getD "", causes := [e.text] }
  | .ok files =>
    modify ({ · with files })
    match files.openWrite path with
    | .error e =>
      return .error { message := "Failed to open PID file: " ++ path, causes := [e.text] }
    | .ok (node, files) =>
      modify ({ · with files })
      if locked held node then return .error (heldReport path)
      modify ({ · with files := files.overwrite node (Text.Utf8.encode (line pid)) })
      Work.note .debug ("PID file " ++ path ++ " created")
      return .ok { path, node }

/-- Lets a file go, and removes it. -/
def release {σ : Type} (f : PidFile) : Work σ Unit := do
  match (← Work.files).remove f.path with
  | .ok files => modify ({ · with files })
  | .error e => Work.note .warn ("Unable to remove PID file " ++ f.path ++ ": " ++ e.text)

/-- Lets files go in order. -/
def releaseAll {σ : Type} : List PidFile → Work σ Unit
  | [] => return ()
  | f :: rest => do
    f.release
    releaseAll rest

end PidFile

end Gatewatch
