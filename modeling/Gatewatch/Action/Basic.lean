/-
Actions: what is done when a jail starts or stops and when a source is banned or unbanned. An
action is a map of static tags and five templates of commands.
-/
import Gatewatch.Action.Command

namespace Gatewatch

namespace Action

/-- The five templates of an action. -/
inductive Role where
  | start
  | stop
  | check
  | ban
  | unban
deriving DecidableEq, Repr

namespace Role

/-- The word of a role. -/
def text : Role → String
  | start => "start"
  | stop => "stop"
  | check => "check"
  | ban => "ban"
  | unban => "unban"

/-- The role of a word. -/
def ofWord? : String → Option Role
  | "start" => some start
  | "stop" => some stop
  | "check" => some check
  | "ban" => some ban
  | "unban" => some unban
  | _ => none

/-- Reads a role, which may follow `action`. -/
def read (text : String) : Outcome Role :=
  let lead := "action".toList
  let word := if lead.isPrefixOf text.toList then String.ofList (text.toList.drop lead.length)
    else text
  match ofWord? word with
  | some role => .ok role
  | none => .error (.unknownTemplateKind word)

end Role

/-- The templates of an action. -/
structure Templates where
  start : String := ""
  stop : String := ""
  check : String := ""
  ban : String := ""
  unban : String := ""
deriving DecidableEq, Repr

end Action

open Gatewatch.Action in
/-- A named action. -/
structure Action where
  name : String
  tags : TagMap := []
  templates : Templates := {}
deriving DecidableEq

namespace Action

/-- The template of a role. -/
def Templates.get (t : Templates) : Role → String
  | .start => t.start
  | .stop => t.stop
  | .check => t.check
  | .ban => t.ban
  | .unban => t.unban

/-- Sets the template of a role. -/
def Templates.put (t : Templates) (role : Role) (text : String) : Templates :=
  match role with
  | .start => { t with start := text }
  | .stop => { t with stop := text }
  | .check => { t with check := text }
  | .ban => { t with ban := text }
  | .unban => { t with unban := text }

@[simp] theorem Templates.get_put_self (t : Templates) (role : Role) (text : String) :
    (t.put role text).get role = text := by
  cases role <;> rfl

theorem Templates.get_put_of_ne (t : Templates) {role other : Role} (text : String)
    (h : other ≠ role) : (t.put role text).get other = t.get other := by
  cases role <;> cases other <;> first | rfl | exact absurd rfl h

/-- The template of a role. -/
def command (a : Action) (role : Role) : String := a.templates.get role

/-- Sets the template of a role. -/
def setCommand (a : Action) (role : Role) (text : String) : Noted Action := do
  note .debug ("Set action" ++ role.text ++ " for " ++ a.name ++ " = " ++ text)
  return { a with templates := a.templates.put role text }

/-- Sets a static tag. -/
def setTag (a : Action) (key value : String) : Action :=
  { a with tags := TagMap.put key value a.tags }

/-- The value of a static tag. -/
def tag? (a : Action) (key : String) : Option String := a.tags.get? key

/-- Takes a static tag away; the flag tells whether it was there. -/
def eraseTag (a : Action) (key : String) : Action × Bool :=
  ({ a with tags := a.tags.erase key }, (a.tags.get? key).isSome)

variable {σ : Type} [Shell σ]

/-- The command that a template gives, if its tags can be expanded. -/
def render (a : Action) (template : String) (event : Option Ban.Event) :
    Work σ (Option String) := do
  match substitute template a.tags event with
  | .ok command => return some command
  | .error e =>
    Work.note .error (a.name ++ ": unable to substitute tags: " ++ e.message)
    return none

/-- Runs the command of a template, and tells whether it succeeded. -/
def perform (a : Action) (template : String) (event : Option Ban.Event) : Work σ Bool := do
  match ← a.render template event with
  | some command => execute command
  | none => return false

/-- Runs the start command. -/
def runStart (a : Action) : Work σ Bool := a.perform a.templates.start none

/-- Runs the stop command. -/
def runStop (a : Action) : Work σ Bool := a.perform a.templates.stop none

/-- Runs the check command. -/
def runCheck (a : Action) : Work σ Bool := a.perform a.templates.check none

/-- Makes sure that the environment is as the check command wants it; if it is not, stops and
starts the action once. -/
def ensure (a : Action) : Work σ Bool := do
  if ← a.runCheck then return true
  Work.note .error
    (a.name ++ ": invariant check failed. Trying to restore a sane environment")
  let _ ← a.runStop
  let _ ← a.runStart
  if ← a.runCheck then return true
  Work.note .error (a.name ++ ": unable to restore environment")
  return false

/-- Runs the command of a template for an event, in a checked environment. -/
def carryOut (a : Action) (template : String) (event : Ban.Event) : Work σ Bool := do
  if template.isEmpty then
    Work.note .debug "Nothing to do"
    return true
  if ← a.ensure then a.perform template (some event) else return false

/-- Runs the ban command. -/
def runBan (a : Action) (event : Ban.Event) : Work σ Bool := a.carryOut a.templates.ban event

/-- Runs the unban command. -/
def runUnban (a : Action) (event : Ban.Event) : Work σ Bool :=
  a.carryOut a.templates.unban event

end Action

end Gatewatch
