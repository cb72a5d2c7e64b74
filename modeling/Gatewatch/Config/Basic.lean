/-
Configurations: the settings of the server and the jails it starts with. What is declared about
jails becomes requests, the same that a client could send.
-/
import Gatewatch.Action.Tags
import Gatewatch.Filter.Watcher

namespace Gatewatch

/-- An action as it is declared. -/
structure Config.ActionSpec where
  name : String := ""
  tags : Action.TagMap := []
  start : String := ""
  stop : String := ""
  check : String := ""
  ban : String := ""
  unban : String := ""
deriving DecidableEq, Repr

/-- A jail as it is declared. Options that are not declared keep what a jail has by itself. -/
structure Config.JailSpec where
  name : String := ""
  backend : String := "auto"
  enabled : Bool := true
  paths : List String := []
  tail : Bool := false
  fail : List String := []
  ignore : List String := []
  ignored : List String := []
  findTime : Option Int := none
  maxRetry : Option Nat := none
  banTime : Option Int := none
  useDns : Option String := none
  maxLines : Option Nat := none
  charset : Option String := none
  datePattern : Option String := none
  ignoreCommand : Option String := none
  actions : List Config.ActionSpec := []
deriving DecidableEq, Repr

/-- The place of the control socket, unless another is given. -/
def Config.defaultSocket : String := "/var/run/failwarden/failwarden.sock"

/-- The place of the file that names the process, unless another is given. -/
def Config.defaultPidFile : String := "/var/run/failwarden/failwarden.pid"

/-- The place of the configuration, unless another is given. -/
def Config.defaultPath : String := "/etc/failwarden/config.yaml"

/-- A configuration. -/
structure Config where
  socket : String := Config.defaultSocket
  pidFile : String := Config.defaultPidFile
  logLevel : Nat := 3
  logTarget : String := "STDERR"
  timeoutSecs : Nat := 60
  pollMillis : Nat := 1000
  queueCapacity : Nat := 1024
  jails : List Config.JailSpec := []
deriving DecidableEq, Repr

namespace Config

/-- The name that no jail may have. -/
def reservedName : String := "all"

/-- What is wrong with a configuration. -/
inductive Fault where
  | emptySocket
  | badLevel (level : Nat)
  | noQueue
  | unnamedJail
  | reservedJail
  | duplicateJail (name : String)
  | badBackend (jail backend : String)
  | badActions (jail : String)
deriving DecidableEq, Repr

/-- The description of a fault. -/
def Fault.text : Fault → String
  | emptySocket => "socket path must not be empty"
  | badLevel level => "Invalid loglevel " ++ toString level ++ ". Valid values: 0..4"
  | noQueue => "queue_capacity must be greater than zero"
  | unnamedJail => "Every jail needs a name"
  | reservedJail => "'" ++ reservedName ++ "' is reserved and cannot name a jail"
  | duplicateJail name => "Jail '" ++ name ++ "' is defined twice"
  | badBackend jail backend => "Jail '" ++ jail ++ "': invalid backend '" ++ backend
      ++ "'. Valid values: auto, polling, notify"
  | badActions jail => "Jail '" ++ jail ++ "': action names must be unique and non-empty"

/-- Whether names are all different, and none is empty. -/
def distinctNames (names : List String) : Bool :=
  names.all (· != "") && names.eraseDups.length == names.length

/-- Checks a jail; `seen` holds the names of those before. -/
def JailSpec.check (seen : List String) (j : JailSpec) : Except Fault Unit :=
  if j.name = "" then .error .unnamedJail
  else if j.name = reservedName then .error .reservedJail
  else if seen.contains j.name then .error (.duplicateJail j.name)
  else if (Filter.Backend.read j.backend).toOption.isNone then
    .error (.badBackend j.name j.backend)
  else if distinctNames (j.actions.map ActionSpec.name) then .ok ()
  else .error (.badActions j.name)

/-- Checks jails in order. -/
def checkJails (seen : List String) : List JailSpec → Except Fault Unit
  | [] => .ok ()
  | j :: rest => do
    j.check seen
    checkJails (j.name :: seen) rest

/-- Checks a configuration. -/
def check (c : Config) : Except Fault Unit :=
  if c.socket = "" then .error .emptySocket
  else if 4 < c.logLevel then .error (.badLevel c.logLevel)
  else if c.queueCapacity = 0 then .error .noQueue
  else checkJails [] c.jails

/-- The limit for commands in seconds, if there is one. -/
def timeout? (c : Config) : Option Nat := if 0 < c.timeoutSecs then some c.timeoutSecs else none

/-- The time between wakes in milliseconds. -/
def pollInterval (c : Config) : Nat := max c.pollMillis 1

-- ============================================================ requests

/-- A request of several words. -/
abbrev Words := List String

/-- A request for an option that may be declared. -/
def optional {α : Type} (request : α → Words) : Option α → List Words
  | some a => [request a]
  | none => []

/-- The requests that set up an action of a jail. -/
def ActionSpec.requests (jail : String) (a : ActionSpec) : List Words :=
  let template (option text : String) : List Words :=
    if text = "" then [] else [["set", jail, option, a.name, text]]
  [["set", jail, "addaction", a.name]]
    ++ a.tags.map (fun (key, value) => ["set", jail, "setcinfo", a.name, key, value])
    ++ template "actionstart" a.start
    ++ template "actionstop" a.stop
    ++ template "actioncheck" a.check
    ++ template "actionban" a.ban
    ++ template "actionunban" a.unban

/-- The requests that set up and start a jail. -/
def JailSpec.requests (j : JailSpec) : List Words :=
  let set (option value : String) : Words := ["set", j.name, option, value]
  [["add", j.name, j.backend]]
    ++ optional (set "logencoding") j.charset
    ++ j.paths.map (fun path =>
      ["set", j.name, "addlogpath", path, if j.tail then "tail" else "head"])
    ++ j.fail.map (set "addfailregex")
    ++ j.ignore.map (set "addignoreregex")
    ++ j.ignored.map (set "addignoreip")
    ++ optional (fun n => set "findtime" (toString n)) j.findTime
    ++ optional (fun n => set "maxretry" (toString n)) j.maxRetry
    ++ optional (fun n => set "bantime" (toString n)) j.banTime
    ++ optional (set "usedns") j.useDns
    ++ optional (fun n => set "maxlines" (toString n)) j.maxLines
    ++ optional (set "datepattern") j.datePattern
    ++ optional (set "ignorecommand") j.ignoreCommand
    ++ j.actions.flatMap (·.requests j.name)
    ++ [["start", j.name]]

/-- The requests that set up and start the jails that are enabled. -/
def requests (c : Config) : List Words :=
  (c.jails.filter JailSpec.enabled).flatMap JailSpec.requests

-- ============================================================= options

/-- What the command line says instead. -/
structure Options where
  socket : Option String := none
  pidFile : Option String := none
  force : Bool := false
  logLevel : Option Nat := none
  logTarget : Option String := none
  verbose : Bool := false
  quiet : Bool := false
deriving DecidableEq, Repr

/-- The level of the log that options ask for. A level that is given counts more than the two
flags, and of these the first. -/
def Options.level (o : Options) (usual : Nat) : Nat :=
  o.logLevel.getD (if o.verbose then 4 else if o.quiet then 1 else usual)

/-- A configuration with the options in its place. -/
def Options.apply (o : Options) (c : Config) : Config :=
  { c with
    socket := o.socket.getD c.socket
    pidFile := o.pidFile.getD c.pidFile
    logLevel := o.level c.logLevel
    logTarget := o.logTarget.getD c.logTarget }

end Config

end Gatewatch
