/-
The settings of a jail: changing and asking. A request names an option and gives its
arguments; reading the request tells what it means, before anything is done.
-/
import Gatewatch.Jail.Basic
import Gatewatch.Text.Numeral
import Gatewatch.Word

namespace Gatewatch.Jail

open Net (Address UseDns)
open Json (Value)

-- =========================================================== arguments

/-- The word at an index of a request. -/
def word (args : List String) (index : Nat) : Outcome String :=
  match args[index]? with
  | some w => .ok w
  | none => .error (.missingArgument args)

/-- The words from an index of a request on, joined by blanks. -/
def words (args : List String) (index : Nat) : Outcome String :=
  if args.length ≤ index then .error (.missingArgument args)
  else .ok (" ".intercalate (args.drop index))

/-- The number at an index of a request, by a way to read it. -/
def number {α : Type} (args : List String) (index : Nat) (what : String)
    (read : List Char → Option α) : Outcome α := do
  let text ← word args index
  match read text.toList with
  | some n => .ok n
  | none => .error (.badValue what text)

/-- Reads an index. -/
def readIndex (cs : List Char) : Option Nat := Text.unsigned? (Word.size 64) cs

/-- Reads a count of attempts. -/
def readCount (cs : List Char) : Option Nat := Text.unsigned? (Word.size 32) cs

/-- Reads a number of seconds. -/
def readSeconds (cs : List Char) : Option Int := Text.signed? 64 cs

/-- Reads a mode of name resolution. -/
def readUseDns (cs : List Char) : Option UseDns := (UseDns.read (String.ofList cs)).toOption

-- ============================================================= changes

/-- A change of a jail. -/
inductive Change where
  | idle (on : Bool)
  | addIgnored (entry : String)
  | removeIgnored (entry : String)
  | addPath (path : String) (tail : Bool)
  | removePath (path : String)
  | addFail (pattern : String)
  | removeFail (index : Nat)
  | addIgnore (pattern : String)
  | removeIgnore (index : Nat)
  | findTime (secs : Int)
  | maxRetry (n : Nat)
  | banTime (secs : Int)
  | useDns (mode : UseDns)
  | maxLines (n : Nat)
  | ignoreCommand (command : String)
  | charset (label : String)
  | datePattern (pattern : String)
  | ban (source : Address)
  | unban (source : Address)
  | addAction (name : String)
  | removeAction (name : String)
  | setTag (action key value : String)
  | eraseTag (action key : String)
  | setCommand (role : Action.Role) (action template : String)

/-- The role of a template by the name of its option. -/
def roleOf? : String → Option Action.Role
  | "actionstart" => some .start
  | "actionstop" => some .stop
  | "actioncheck" => some .check
  | "actionban" => some .ban
  | "actionunban" => some .unban
  | _ => none

/-- Reads a change of a request `set JAIL OPTION ARGUMENT …`. -/
def Change.read (args : List String) : Outcome Change := do
  let option ← word args 2
  match option with
  | "idle" => match ← word args 3 with
    | "on" => return idle true
    | "off" => return idle false
    | other => .error (.badIdleWord other)
  | "addignoreip" => return addIgnored (← word args 3)
  | "delignoreip" => return removeIgnored (← word args 3)
  | "addlogpath" =>
    let path ← word args 3
    match args[4]? with
    | none | some "head" => return addPath path false
    | some "tail" => return addPath path true
    | some other => .error (.badPositionWord other)
  | "dellogpath" => return removePath (← word args 3)
  | "addfailregex" => return addFail (← words args 3)
  | "delfailregex" => return removeFail (← number args 3 "index" readIndex)
  | "addignoreregex" => return addIgnore (← words args 3)
  | "delignoreregex" => return removeIgnore (← number args 3 "index" readIndex)
  | "findtime" =>
    let secs ← number args 3 "find time" readSeconds
    if secs ≤ 0 then .error .badFindTime else return findTime secs
  | "maxretry" =>
    let n ← number args 3 "retry count" readCount
    if n = 0 then .error .badMaxRetry else return maxRetry n
  | "bantime" => return banTime (← number args 3 "ban time" readSeconds)
  | "usedns" => return useDns (← number args 3 "usedns value" readUseDns)
  | "maxlines" => return maxLines (← number args 3 "line count" readIndex)
  | "ignorecommand" => return ignoreCommand (← words args 3)
  | "logencoding" => return charset (← word args 3)
  | "datepattern" => return datePattern (← words args 3)
  | "banip" => return ban (.parse (← word args 3))
  | "unbanip" =>
    let source := Address.parse (← word args 3)
    if source.isValid then return unban source else .error (.invalidAddress source.text)
  | "addaction" => return addAction (← word args 3)
  | "delaction" => return removeAction (← word args 3)
  | "setcinfo" => return setTag (← word args 3) (← word args 4) (← words args 5)
  | "delcinfo" => return eraseTag (← word args 3) (← word args 4)
  | option => match roleOf? option with
    | some role => return setCommand role (← word args 3) (← words args 4)
    | none => .error (.unknownSetting option)

/-- The jail with another filter. -/
def withFilter (j : Jail) (filter : Filter) : Jail := { j with filter }

/-- The jail with another roster. -/
def withRoster (j : Jail) (roster : Action.Roster) : Jail := { j with roster }

/-- The user's date pattern as a value. -/
def datePatternValue (j : Jail) : Value :=
  Value.ofOption (fun (pattern, name) => .strings [pattern, name]) j.filter.detector.pattern?

/-- What a change that succeeded answers, as a function of the changed jail. -/
def Change.reply (c : Change) (j : Jail) : Value :=
  match c with
  | addIgnored _ | removeIgnored _ => .strings j.filter.ignored.texts
  | addPath _ _ | removePath _ => .strings j.filter.paths
  | addFail _ | removeFail _ => .strings j.filter.patterns.failSources
  | addIgnore _ | removeIgnore _ => .strings j.filter.patterns.ignoreSources
  | findTime _ => .ofInt j.filter.table.findTime
  | maxRetry _ => .ofNat j.filter.table.maxRetry
  | banTime _ => .ofInt j.roster.roll.banTime
  | useDns _ => .str j.filter.useDns.text
  | maxLines _ => .ofNat j.filter.maxLines
  | ignoreCommand _ => .str j.filter.ignoreCommand
  | charset _ => .str j.filter.charset.name
  | datePattern _ => j.datePatternValue
  | ban source | unban source => .str source.text
  | addAction name => .str name
  | setTag _ _ value => .str value
  | setCommand _ _ template => .str template
  | idle _ | removeAction _ | eraseTag _ _ => .null

/-- What an outcome of the filter or the roster comes to for the jail. -/
def conclude {α : Type} (j : Jail) (put : α → Jail) : Outcome α → Outcome Unit × Jail
  | .ok a => (.ok (), put a)
  | .error e => (.error e, j)

variable {σ : Type} [Shell σ]

/-- Makes a change. The jail comes with an error, too, as it is by then. -/
def change (j : Jail) (c : Change) : Work σ (Outcome Unit × Jail) := do
  let f := j.filter
  match c with
  | .idle on => return (.ok (), ← Work.ofNoted (j.setIdle on))
  | .addIgnored entry => return (.ok (), j.withFilter (← Work.ofNoted (f.addIgnored entry)))
  | .removeIgnored entry =>
    return j.conclude j.withFilter (← Work.ofNoted (f.removeIgnored entry))
  | .addPath path tail =>
    let h ← get
    return j.conclude j.withFilter (← Work.ofNoted (f.addPath h.files path tail h.notifier))
  | .removePath path => return j.conclude j.withFilter (← Work.ofNoted (f.removePath path))
  | .addFail pattern =>
    return j.conclude (fun patterns => j.withFilter { f with patterns })
      (f.patterns.addFail pattern)
  | .removeFail index =>
    return j.conclude (fun x => j.withFilter { f with patterns := x.2 })
      (f.patterns.removeFail index)
  | .addIgnore pattern =>
    return j.conclude (fun patterns => j.withFilter { f with patterns })
      (f.patterns.addIgnore pattern)
  | .removeIgnore index =>
    return j.conclude (fun x => j.withFilter { f with patterns := x.2 })
      (f.patterns.removeIgnore index)
  | .findTime secs => return (.ok (), j.withFilter (← Work.ofNoted (f.setFindTime secs)))
  | .maxRetry n => return (.ok (), j.withFilter (← Work.ofNoted (f.setMaxRetry n)))
  | .banTime secs => return (.ok (), j.withRoster (← Work.ofNoted (j.roster.setBanTime secs)))
  | .useDns useDns => return (.ok (), j.withFilter { f with useDns })
  | .maxLines n => return j.conclude j.withFilter (← Work.ofNoted (f.setMaxLines n))
  | .ignoreCommand command =>
    return (.ok (), j.withFilter (← Work.ofNoted (f.setIgnoreCommand command)))
  | .charset label => return j.conclude j.withFilter (← Work.ofNoted (f.setCharset label))
  | .datePattern pattern =>
    return j.conclude j.withFilter (← Work.ofNoted (f.setDatePattern pattern))
  | .ban source => return j.conclude j.withFilter (f.addBanned source (← Work.now))
  | .unban source => return j.conclude j.withRoster (← j.roster.unban source)
  | .addAction name => return j.conclude j.withRoster (← Work.ofNoted (j.roster.addAction name))
  | .removeAction name => return j.conclude j.withRoster (j.roster.removeAction name)
  | .setTag action key value =>
    return j.conclude (fun a => j.withRoster (j.roster.replace (a.setTag key value)))
      (j.roster.action action)
  | .eraseTag action key =>
    return j.conclude (fun a => j.withRoster (j.roster.replace (a.eraseTag key).1))
      (j.roster.action action)
  | .setCommand role action template =>
    match j.roster.action action with
    | .error e => return (.error e, j)
    | .ok a =>
      let a ← Work.ofNoted (a.setCommand role template)
      return (.ok (), j.withRoster (j.roster.replace a))

-- ============================================================== asking

/-- A question about a jail. -/
inductive Query where
  | idle
  | paths
  | ignored
  | fail
  | ignore
  | findTime
  | maxRetry
  | banTime
  | useDns
  | maxLines
  | ignoreCommand
  | charset
  | datePattern
  | banned
  | lastAction
  | tag (action key : String)
  | command (role : Action.Role) (action : String)
deriving DecidableEq, Repr

/-- Reads a question of a request `get JAIL OPTION ARGUMENT …`. -/
def Query.read (args : List String) : Outcome Query := do
  let option ← word args 2
  match option with
  | "idle" => return idle
  | "logpath" => return paths
  | "ignoreip" => return ignored
  | "failregex" => return fail
  | "ignoreregex" => return ignore
  | "findtime" => return findTime
  | "maxretry" => return maxRetry
  | "bantime" => return banTime
  | "usedns" => return useDns
  | "maxlines" => return maxLines
  | "ignorecommand" => return ignoreCommand
  | "logencoding" => return charset
  | "datepattern" => return datePattern
  | "banned" => return banned
  | "addaction" => return lastAction
  | "cinfo" => return tag (← word args 3) (← word args 4)
  | option => match roleOf? option with
    | some role => return command role (← word args 3)
    | none => .error (.unknownQuery option)

/-- The answer to a question. -/
def answer (j : Jail) (q : Query) : Outcome Value :=
  match q with
  | .idle => .ok (.bool j.idle)
  | .paths => .ok (.strings j.filter.paths)
  | .ignored => .ok (.strings j.filter.ignored.texts)
  | .fail => .ok (.strings j.filter.patterns.failSources)
  | .ignore => .ok (.strings j.filter.patterns.ignoreSources)
  | .findTime => .ok (.ofInt j.filter.table.findTime)
  | .maxRetry => .ok (.ofNat j.filter.table.maxRetry)
  | .banTime => .ok (.ofInt j.roster.roll.banTime)
  | .useDns => .ok (.str j.filter.useDns.text)
  | .maxLines => .ok (.ofNat j.filter.maxLines)
  | .ignoreCommand => .ok (.str j.filter.ignoreCommand)
  | .charset => .ok (.str j.filter.charset.name)
  | .datePattern => .ok j.datePatternValue
  | .banned => .ok (.strings (j.roster.roll.sources.map Address.text))
  | .lastAction => .ok (Value.ofOption .str j.roster.lastName?)
  | .tag action key => do
    match (← j.roster.action action).tag? key with
    | some value => .ok (.str value)
    | none => .error (.noTag key action)
  | .command role action => do return .str ((← j.roster.action action).command role)

end Gatewatch.Jail
