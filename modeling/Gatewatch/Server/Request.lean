/-
Requests to a server. A request that fails leaves the server as it was, except that a reload
stops all jails before it sets up those of the file, and may fail on the way. There is one
request that gets no reply: to wait for longer than can be told in 64 bits of seconds.
-/
import Gatewatch.Config.Load
import Gatewatch.Server.Basic
import Gatewatch.Text.Double
import Gatewatch.Wire.Message

namespace Gatewatch.Server

open Jail (word words number)
open Json (Value)

/-- What becomes of a request. -/
inductive Reaction where
  | answer (v : Value)
  | refusal (e : Error)
  /-- The request comes to an end without a reply. -/
  | abort

/-- The number of seconds that are too many to wait. -/
def endlessWait : Float := 18446744073709551616.0

/-- The longest wait in seconds. -/
def maxWait : Nat := 3600

/-- The whole seconds of a wait. -/
def waitOf (secs : Float) : Nat := if 3600.0 ≤ secs then maxWait else secs.floor.toUInt64.toNat

/-- A request about the server. -/
inductive Request where
  | ping
  | add (name : String) (backend : Filter.Backend)
  | start (name : String)
  | quit
  | stopAll
  | stop (name : String)
  | reload
  | status
  | statusOf (name : String)
  | wait (secs : Float)
  | set
  | get

/-- Reads a request; of those to set and to get, the rest is read later. -/
def Request.read (args : List String) : Outcome Request := do
  match ← word args 0 with
  | "ping" => return ping
  | "add" =>
    let name ← word args 1
    match args[2]? with
    | none => return add name .auto
    | some b => return add name (← Filter.Backend.read b)
  | "start" => return start (← word args 1)
  | "stop" => match args[1]? with
    | none => return quit
    | some name => return if name = Config.reservedName then stopAll else stop name
  | "reload" => return reload
  | "status" => match args[1]? with
    | none => return status
    | some name => return statusOf name
  | "sleep" =>
    let secs ← number args 1 "duration" fun cs => Text.double? (String.ofList cs)
    if secs.isNaN || secs.isInf || secs < 0.0 then
      .error (.badDuration (Text.doubleText secs))
    else return wait secs
  | "set" => return set
  | "get" => return get
  | other => .error (.unknownCommand other)

/-- Reads a level of the log. -/
def readLevel (cs : List Char) : Option Nat := Text.unsigned? 256 cs

/-- The reaction to an outcome. -/
def Reaction.ofOutcome {α : Type} (f : α → Value) : Outcome α → Reaction
  | .ok a => .answer (f a)
  | .error e => .refusal e

variable {σ : Type} [Shell σ]

/-- Sets the level of the log. -/
def setLevel (args : List String) : Work σ (Outcome Value) := do
  match number args 2 "log level" readLevel with
  | .error e => return .error e
  | .ok n =>
    let h ← MonadState.get
    match (h.log.setLevel n).value with
    | .error e => return .error e
    | .ok log =>
      MonadState.set { h with log }
      Work.ofNoted (do let _ ← h.log.setLevel n)
      return .ok (.ofNat log.level)

/-- Sets the target of the log. -/
def setTarget (args : List String) : Work σ (Outcome Value) := do
  match words args 2 with
  | .error e => return .error e
  | .ok target =>
    let h ← MonadState.get
    let x := h.log.setTarget h.files target h.syslog
    match x.value with
    | .error e => return .error e
    | .ok (log, files) =>
      MonadState.set { h with log, files }
      Work.ofNoted (do let _ ← x)
      return .ok (.str log.target.text)

/-- Carries out a request to set something. -/
def carrySet (s : Server) (args : List String) : Work σ (Outcome Value × Server) := do
  match word args 1 with
  | .error e => return (.error e, s)
  | .ok "loglevel" => return (← setLevel args, s)
  | .ok "logtarget" => return (← setTarget args, s)
  | .ok name =>
    match s.jail name with
    | .error e => return (.error e, s)
    | .ok j =>
      match Jail.Change.read args with
      | .error e => return (.error e, s)
      | .ok change =>
        let (done, j) ← j.change change
        return (done.map fun _ => change.reply j, s.replace j)

/-- Answers a request to get something. -/
def answerGet (s : Server) (log : Log.Control) (args : List String) : Outcome Value := do
  match ← word args 1 with
  | "loglevel" => return .ofNat log.level
  | "logtarget" => return .str log.target.text
  | name =>
    let j ← s.jail name
    j.answer (← Jail.Query.read args)

/-- The reaction to an outcome that is answered by a value if it is a success. -/
def settle (x : Outcome Unit × Server) (v : Value) : Reaction × Server :=
  (.ofOutcome (fun _ => v) x.1, x.2)

/-- Carries out a request other than a reload. -/
def carryOut (s : Server) (args : List String) (r : Request) : Work σ (Reaction × Server) := do
  match r with
  | .ping => return (.answer (.str "pong"), s)
  | .add name backend =>
    let h ← MonadState.get
    return settle (← Work.ofNoted (s.addJail h.files name backend h.notifier)) (.str name)
  | .start name => return settle (← Work.ofNoted (s.startJail name)) .null
  | .quit =>
    Work.note .info "Shutdown requested over the control socket"
    return (.answer .null, ← s.quit)
  | .stopAll => return (.answer .null, ← s.stopAll)
  | .stop name => return settle (← s.stopJail name) .null
  | .status => return (.answer s.status, s)
  | .statusOf name => return (.ofOutcome Jail.status (s.jail name), s)
  | .wait secs =>
    if endlessWait ≤ secs then return (.abort, s)
    else if secs == 0.0 then return (.answer .null, s)
    else return (.answer .null, ← s.wakes (waitOf secs))
  | .set =>
    let (x, s) ← s.carrySet args
    return (.ofOutcome id x, s)
  | .get =>
    let h ← MonadState.get
    return (.ofOutcome id (s.answerGet h.log args), s)
  | .reload => return (.answer .null, s)

/-- The reply to a reaction; failures are noted. -/
def replyTo (args : List String) : Reaction → Work σ (Option Wire.Reply)
  | .answer v => return some (.ok v)
  | .refusal e => do
    Work.note .warn ("Command " ++ Text.quotedList args ++ " has failed. Received " ++ e.message)
    return some (.error e.message)
  | .abort => return none

/-- The text of a reply's value, if that is a text. -/
def textOf : Value → String
  | .str s => s
  | _ => ""

/-- Carries out requests in order, with a way to carry out one, up to the first that fails. -/
def batch (one : Server → List String → Work σ (Option Wire.Reply × Server)) :
    List (List String) → Server → Work σ (Option (Outcome Unit) × Server)
  | [], s => return (some (.ok ()), s)
  | args :: rest, s => do
    match ← one s args with
    | (some reply, s) =>
      if reply.isOk then batch one rest s
      else return (some (.error (.batchStopped args (textOf reply.value))), s)
    | (none, s) => return (none, s)

/-- Carries out one request of a batch: the requests of a configuration are never reloads. -/
def proceedOnce (s : Server) (args : List String) : Work σ (Option Wire.Reply × Server) := do
  Work.note .debug ("Command: " ++ Text.quotedList args)
  match Request.read args with
  | .error e => return (← replyTo args (.refusal e), s)
  | .ok r =>
    let (reaction, s) ← s.carryOut args r
    return (← replyTo args reaction, s)

/-- Sets the jails up anew from the file. -/
def reload (s : Server) : Work σ (Reaction × Server) := do
  match s.configPath with
  | none =>
    Work.note .debug "No configuration file to reload"
    return (.answer .null, s)
  | some path =>
    let h ← MonadState.get
    match Config.load h.files path with
    | .error fault => return (.refusal (.badConfigFile fault.report.line), s)
    | .ok config =>
      Work.note .info ("Reloading jails from " ++ path)
      let s ← s.stopAll
      match ← batch proceedOnce config.requests s with
      | (some (.ok ()), s) => return (.answer .null, s)
      | (some (.error e), s) => return (.refusal e, s)
      | (none, s) => return (.abort, s)

/-- Carries out a request and replies to it. There is no reply when it is aborted. -/
def proceed (s : Server) (args : List String) : Work σ (Option Wire.Reply × Server) := do
  match Request.read args with
  | .ok .reload =>
    Work.note .debug ("Command: " ++ Text.quotedList args)
    let (reaction, s) ← s.reload
    return (← replyTo args reaction, s)
  | _ => s.proceedOnce args

/-- Carries out requests in order up to the first that fails. -/
def apply (s : Server) (requests : List (List String)) :
    Work σ (Option (Outcome Unit) × Server) :=
  batch proceed requests s

end Gatewatch.Server
