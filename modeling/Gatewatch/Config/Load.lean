/-
Loading a configuration from a file.
-/
import Gatewatch.Config.Source
import Gatewatch.Disk.Tree
import Gatewatch.Note
import Gatewatch.Report
import Gatewatch.Text.Quoted

namespace Gatewatch.Config

/-- Why a configuration could not be loaded. -/
inductive LoadFault where
  | unreadable (path reason : String)
  | malformed (path : String)
  | invalid (fault : Fault)
deriving DecidableEq, Repr

/-- The report of a failure to load. -/
def LoadFault.report : LoadFault → Report
  | unreadable path reason =>
    { message := "Failed to read config file: " ++ Text.quoted path, causes := [reason] }
  | malformed path =>
    { message := "Failed to parse config file: " ++ Text.quoted path
      causes := ["not a configuration"] }
  | invalid fault => { message := fault.text }

/-- Loads a configuration and checks it. -/
def load (files : Disk.Tree) (path : String) : Except LoadFault Config :=
  match files.read path with
  | .error e => .error (.unreadable path e.text)
  | .ok bytes =>
    match String.fromUTF8? ⟨bytes.toArray⟩ with
    | none => .error (.unreadable path "stream did not contain valid UTF-8")
    | some text => match ofYaml? text with
      | none => .error (.malformed path)
      | some c => match c.check with
        | .ok () => .ok c
        | .error fault => .error (.invalid fault)

/-- Loads the configuration at a path, or the one at the usual path if it is there; the path
is part of the result. Without either, the configuration is the usual one. -/
def find (files : Disk.Tree) (path : Option String) :
    Noted (Except LoadFault (Config × Option String)) :=
  match path with
  | some path => return (load files path).map (·, some path)
  | none =>
    if files.exists? defaultPath then return (load files defaultPath).map (·, some defaultPath)
    else do
      note .debug "No configuration file, using defaults"
      return .ok ({}, none)

end Gatewatch.Config
