/-
A machine on which the program is run. At most one server runs in the background, with files
behind its two streams; all other runs come to an end before the next.

A command of the server that takes time is waited for only by what has to: by the ban that it is
part of, by requests that run commands themselves, which then come next, and by the end of the
jail or of the server. What it does to the files is done when it starts.
-/
import Gatewatch.Cli.Usage
import Gatewatch.Daemon.Basic
import Gatewatch.Jail.Pace

namespace Gatewatch

/-- How a run of the program ended. -/
structure Ending where
  code : Nat
  stdout : String := ""
  stderr : String := ""
deriving DecidableEq, Repr

/-- The end of a run that failed. -/
def Ending.failed (r : Report) : Ending := { code := 1, stderr := r.text }

/-- The end of a run whose command line was not carried out. -/
def Ending.stopped (s : Cli.Stop) : Ending :=
  if s.isAsked then { code := s.code, stdout := s.text } else { code := s.code, stderr := s.text }

/-- The server in the background. -/
inductive Machine.Process where
  | absent
  | running (d : Daemon) (log : Log.Control) (limit : Option Nat)
  | ended (code : Nat)

/-- A ban of a jail of the server, and when the command that is part of it has ended. -/
structure Machine.Busy where
  jail : String
  ongoing : Jail.Ongoing
  finish : Nat

/-- A machine. `clock` counts milliseconds. -/
structure Machine (σ : Type) where
  now : Int
  files : Disk.Tree
  shell : σ
  process : Machine.Process := .absent
  clock : Nat := 0
  busy : List Machine.Busy := []
  syslog : Log.Syslog := {}
  names : Net.Resolver := Net.numericHosts
  notifier : Filter.Notifier := {}
  decoders : Text.Decoders := Text.asciiOnly

namespace Machine

variable {σ : Type} [Shell σ]

/-- The number of every process that the program runs as. -/
def pid : Nat := 4711

/-- The server in the background, if one runs. -/
def daemon? (m : Machine σ) : Option Daemon :=
  match m.process with
  | .running d _ _ => some d
  | _ => none

/-- Does work with a log and a limit; with the result come the log and how many commands were
run. -/
def perform {α : Type} (m : Machine σ) (log : Log.Control) (limit : Option Nat)
    (w : Work σ α) : α × Log.Control × Nat × Machine σ :=
  let (a, h) := (w {
    now := m.now, files := m.files, shell := m.shell, log, limit, syslog := m.syslog
    names := m.names, notifier := m.notifier, decoders := m.decoders }).value
  (a, h.log, h.runs, { m with files := h.files, shell := h.shell, syslog := h.syslog })

/-- Does work of the server in the background; with the result comes how many commands were
run. -/
def inServer {α : Type} (m : Machine σ) (w : Daemon → Work σ (α × Daemon)) :
    Option (α × Nat) × Machine σ :=
  match m.process with
  | .running d log limit =>
    let ((a, d), log, runs, m) := m.perform log limit (w d)
    (some (a, runs), { m with process := .running d log limit })
  | _ => (none, m)

/-- Does work of the jails of the server in the background. -/
def inJails {α : Type} (m : Machine σ) (w : List Jail → Work σ (α × List Jail)) :
    Option α × Machine σ :=
  let (x, m) := m.inServer fun d => do
    let (a, jails) ← w d.listener.server.jails
    return (a, { d with listener := { d.listener with server := { d.listener.server with jails } } })
  (x.map (·.1), m)

/-- Time passes. -/
def pass (m : Machine σ) (milliseconds : Nat) : Machine σ :=
  { m with clock := m.clock + milliseconds }

/-- Waits for the commands that run. -/
def await (m : Machine σ) : Machine σ :=
  { m with clock := m.busy.foldl (fun t b => max t b.finish) m.clock }

/-- Jails wake some times each. One with a command that runs reads its files only. -/
def wakeEach (clock count : Nat) (busy : List Busy) :
    List Jail → Work σ (List Busy × List Jail)
  | [] => return ([], [])
  | j :: rest => do
    let found := busy.find? (·.jail == j.name)
    let (busy?, j) ← match found.filter (clock < ·.finish) with
      | some b => pure (some b, ← j.wakeFilter)
      | none => do
        let start ← Work.clock
        let (j, ongoing?) ← j.wakesAtOnce count (found.map (·.ongoing))
        let finish := clock + ((← Work.clock) - start)
        pure (ongoing?.map fun ongoing => { jail := j.name, ongoing, finish }, j)
    let (others, rest) ← wakeEach clock count busy rest
    return (busy?.toList ++ others, j :: rest)

/-- The workers of the server in the background wake some times. -/
def wake (m : Machine σ) (count : Nat) : Machine σ :=
  let (busy, m) := m.inJails (wakeEach m.clock count m.busy)
  { m with busy := busy.getD [] }

/-- Takes the bans of jails to their ends. -/
def settleEach (busy : List Busy) : List Jail → Work σ (List Jail)
  | [] => return []
  | j :: rest => do
    let j ← match busy.find? (·.jail == j.name) with
      | some b => j.carryThrough b.ongoing
      | none => pure j
    return j :: (← settleEach busy rest)

/-- All bans come to their ends. -/
def settle (m : Machine σ) : Machine σ :=
  let (_, m) := m.await.inJails fun jails => do return ((), ← settleEach m.busy jails)
  { m with busy := [] }

/-- Does work of the server in the background; if it runs commands, those that run already are
waited for. A server that is asked to shut down then ends. -/
def inDaemon {α : Type} (m : Machine σ) (w : Daemon → Work σ (α × Daemon)) :
    Option α × Machine σ :=
  let (x, m) := m.inServer w
  let m := if (x.map (·.2)).getD 0 = 0 then m else m.await
  let m := if m.daemon?.any Daemon.isAsked then m.settle else m
  match m.process with
  | .running d log limit =>
    if d.isAsked then
      let (_, _, _, m) := m.perform log limit d.finish
      (x.map (·.1), { m with process := .ended 0 })
    else (x.map (·.1), m)
  | _ => (x.map (·.1), m)

/-- The socket of the server in the background. -/
def socket? (m : Machine σ) : Option Socket := m.daemon?.bind (·.listener.socket)

/-- A signal comes to the server in the background. -/
def send (m : Machine σ) (signal : Signal) : Machine σ :=
  (m.inDaemon fun d => do return ((), ← d.receive signal)).2

/-- Whether a request waits until jails have stopped. -/
def stopsJails : List String → Bool
  | "stop" :: _ | "reload" :: _ => true
  | _ => false

/-- Runs a client. -/
def client (m : Machine σ) (socket : Option String) (words : List String)
    (config : Option String) : Except Report String × Machine σ :=
  let bytes? : Except Report (List UInt8) := do
    let path ← (Client.socketPath m.files socket config).value
    Client.connect m.files m.socket? path
    Client.request words
  match bytes? with
  | .error r => (.error r, m)
  | .ok bytes =>
    let m := if stopsJails words then m.settle else m
    let (reply, m) := m.inDaemon fun d => do
      let (reply, listener) ← d.listener.serve bytes
      return (reply, { d with listener })
    ((Client.readReply (reply.getD [])).bind Client.printed, m)

/-- What a server is started with: its configuration and where that is from. -/
def settings (m : Machine σ) (options : Config.Options) (config : Option String) :
    Except Report (Config × Option String) :=
  match (Config.find m.files config).value with
  | .error fault => .error fault.report
  | .ok (c, path) =>
    let c := options.apply c
    match c.check with
    | .ok () => .ok (c, path)
    | .error fault => .error { message := fault.text }

/-- Starts a server, with the files behind its two streams. -/
def serve (m : Machine σ) (options : Config.Options) (config : Option String)
    (stdout stderr : Option Nat) : Except Report Process × Machine σ :=
  match m.settings options config with
  | .error r => (.error r, m)
  | .ok (c, path) =>
    match Log.Control.install m.files c.logLevel c.logTarget stdout stderr m.syslog with
    | .error e => (.error { message := e.message }, m)
    | .ok (log, files) =>
      let limit := c.timeout?.map (1000 * ·)
      let held := (m.daemon?.map Daemon.pidFile).toList
      let (d, log, _, m) := { m with files }.perform log limit
        (Daemon.start c path options.force held pid)
      (d.map (.running · log limit), m)

/-- The options that a server is started with. -/
def options (inv : Cli.Invocation) : Config.Options :=
  match inv.task with
  | .server socket pidFile force logLevel logTarget =>
    { socket, pidFile, force, logLevel, logTarget, verbose := inv.verbose, quiet := inv.quiet }
  | _ => {}

/-- What the program prints about its version. -/
def versionText : String := Cli.programName ++ " " ++ Cli.programVersion ++ "\n"

/-- Runs the program with a command line to its end. A server that starts well is ended by a
signal. -/
def run (m : Machine σ) (args : List String) : Ending × Machine σ :=
  match Cli.read args with
  | .error s => (.stopped s, m)
  | .ok inv =>
    match inv.task with
    | .version => ({ code := 0, stdout := versionText }, m)
    | .client socket words =>
      match m.client socket words inv.config with
      | (.ok text, m) => ({ code := 0, stdout := text }, m)
      | (.error r, m) => (.failed r, m)
    | .server .. =>
      match m.serve (options inv) inv.config none none with
      | (.error r, m) => (.failed r, m)
      | (.ok process, m) =>
        let ended := ({ m with process }.send .terminate)
        ({ code := 0 }, { ended with process := m.process })

/-- Makes an empty file behind a stream. -/
def stream (files : Disk.Tree) (path : String) : Option Nat × Disk.Tree :=
  match (files.write path []).bind fun files => files.openWrite path with
  | .ok (node, files) => (some node, files)
  | .error _ => (none, files)

/-- Puts text behind a stream. -/
def emit (files : Disk.Tree) (stream : Option Nat) (text : String) : Disk.Tree :=
  match stream with
  | some node => files.appendTo node (Text.Utf8.encode text)
  | none => files

/-- Starts the program in the background with files for its streams. If it ended at once, the
result is the exit code. -/
def start (m : Machine σ) (args : List String) (out err : String) : Option Nat × Machine σ :=
  let (stdout, files) := stream m.files out
  let (stderr, files) := stream files err
  let m := { m with files }
  let ended (e : Ending) (m : Machine σ) : Option Nat × Machine σ :=
    (some e.code, { m with files := emit (emit m.files stdout e.stdout) stderr e.stderr })
  match Cli.read args with
  | .error s => ended (.stopped s) m
  | .ok inv =>
    match inv.task with
    | .server .. =>
      match m.serve (options inv) inv.config stdout stderr with
      | (.error r, m) => ended (.failed r) m
      | (.ok process, m) => (none, { m with process })
    | _ =>
      let (e, m) := m.run args
      ended e m

end Machine

end Gatewatch
