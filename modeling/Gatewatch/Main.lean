/-
The command line. It reads the configuration file that the words name, runs the program on a
machine that holds this file, and prints what the program prints.
-/
import Gatewatch.Machine
import Gatewatch.Shell.Posix

namespace Gatewatch

/-- The path of the configuration file that a command line asks for. -/
def configPath (args : List String) : String :=
  match Cli.read args with
  | .ok inv => inv.config.getD Config.defaultPath
  | .error _ => Config.defaultPath

/-- A machine that holds one file, if its bytes could be read. -/
def machineWith (path : String) (bytes : Option ByteArray) : Machine PosixShell :=
  let files := Disk.Tree.initial
  let held := bytes.bind fun b =>
    ((files.makeParents (Disk.parent? path)).bind fun files =>
      files.write path b.data.toList).toOption
  { now := 0, files := held.getD files, shell := {} }

end Gatewatch

open Gatewatch in
/-- Runs the program. -/
def main (args : List String) : IO UInt32 := do
  let path := configPath args
  let bytes ← try some <$> IO.FS.readBinFile path catch _ => pure none
  let (ending, _) := (machineWith path bytes).run args
  (← IO.getStdout).putStr ending.stdout
  (← IO.getStderr).putStr ending.stderr
  return UInt32.ofNat ending.code
