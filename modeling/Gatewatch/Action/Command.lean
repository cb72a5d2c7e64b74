/-
Running commands. A command succeeds when it exits with code 0; one that is blank has nothing
to do, and succeeds. What failed is reported, with a hint for the codes that shells use.
-/
import Gatewatch.Action.Tags
import Gatewatch.Host
import Gatewatch.Text.Trim

namespace Gatewatch.Action

/-- The places where commands are looked for. -/
def searchPath : String := "/usr/local/sbin:/usr/local/bin:/usr/sbin:/usr/bin:/sbin:/bin"

/-- What the code of a failed command means. -/
def hint? (code : Option Int) (command : String) : Option String :=
  match code with
  | some 127 =>
    some ("\"Command not found\". Make sure that every command in " ++ Text.quoted command
      ++ " is in the PATH of the server process (PATH=" ++ searchPath ++ ")")
  | some 126 =>
    some ("\"Permission denied\". A command in " ++ Text.quoted command
      ++ " exists but is not executable")
  | none => some "the command was terminated by a signal"
  | some _ => none

/-- A time in milliseconds, in the largest unit in which it has a whole part. -/
def limitText (ms : Nat) : String :=
  let digits (n : Nat) : String :=
    let padded := String.ofList ((toString (1000 + n)).toList.drop 1)
    let kept := (padded.toList.reverse.dropWhile (· == '0')).reverse
    if kept.isEmpty then "" else "." ++ String.ofList kept
  if 1000 ≤ ms then toString (ms / 1000) ++ digits (ms % 1000) ++ "s"
  else if ms = 0 then "0ns"
  else toString ms ++ "ms"

variable {σ : Type} [Shell σ]

/-- Runs a command, and notes it when it has to be ended. -/
def runNoted (command : String) : Work σ Finish := do
  let finish ← Work.run command
  match finish with
  | .ended _ _ _ (some limit) =>
    Work.note .warn ("Command timed out after " ++ limitText limit ++ ", sending SIGTERM: "
      ++ command)
  | _ => pure ()
  return finish

/-- Reports how a command failed. -/
def report (command : String) (finish : Finish) : Work σ Unit := do
  match finish with
  | .unspawned reason => Work.note .error (command ++ " failed with " ++ reason)
  | .ended code _ stderr _ =>
    match code with
    | some n => Work.note .error (command ++ " returned " ++ toString n)
    | none => Work.note .error (command ++ " was killed")
    if !Text.isBlank stderr then
      Work.note .debug ("stderr: " ++ Text.trimEnd stderr)
    match hint? code command with
    | some hint => Work.note .info ("HINT: " ++ hint)
    | none => pure ()

/-- Runs a command, and tells whether it succeeded. -/
def execute (command : String) : Work σ Bool := do
  Work.note .debug command
  if Text.isBlank command then
    Work.note .debug "Nothing to do"
    return true
  let open' := tagsIn command
  if !open'.isEmpty then
    Work.note .debug ("Unresolved tags in command: " ++ ", ".intercalate open')
  let finish ← runNoted command
  if finish.isSuccess then
    Work.note .debug (command ++ " returned successfully")
    return true
  report command finish
  return false

/-- The exit code as a message shows it. -/
def codeText : Option Int → String
  | some n => "Some(" ++ toString n ++ ")"
  | none => "None"

/-- Runs a command that answers by its exit code: to fail is an answer too. -/
def ask (command : String) : Work σ Bool := do
  match ← runNoted command with
  | .unspawned reason =>
    Work.note .error (command ++ " failed with " ++ reason)
    return false
  | finish =>
    Work.note .debug (command ++ " returned " ++ codeText finish.code?)
    return finish.isSuccess

end Gatewatch.Action
