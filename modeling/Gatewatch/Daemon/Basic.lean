/-
The server as a process. It takes its file and its socket, sets up the jails of its
configuration, and serves requests until it is asked to shut down. What it took it gives back
at the end, and also when it fails on the way.
-/
import Gatewatch.Cli.Grammar
import Gatewatch.Daemon.Listener
import Gatewatch.Daemon.PidFile
import Gatewatch.Daemon.Shutdown

namespace Gatewatch

/-- A server that runs. -/
structure Daemon where
  listener : Listener
  pidFile : PidFile
  shutdown : Shutdown := {}

namespace Daemon

variable {σ : Type} [Shell σ]

/-- Sets up the jails of a configuration; if that fails, the socket is given up. -/
def setUp (config : Config) (s : Server) (socket : Socket) : Work σ (Except Report Server) := do
  match ← s.apply config.requests with
  | (some (.error e), s) =>
    Work.note .error ("Failed to start configured jails: " ++ e.message)
    let _ ← s.stopAll
    socket.close
    return .error { message := "Invalid jail configuration", causes := [e.message] }
  | (_, s) => return .ok s

/-- Starts a server whose log is installed, as a process beside others that hold files. -/
def start (config : Config) (configPath : Option String) (force : Bool) (held : List PidFile)
    (pid : Nat) : Work σ (Except Report Daemon) := do
  Work.note .info ("Starting " ++ Cli.programName ++ " " ++ Cli.programVersion)
  match ← PidFile.create held pid config.pidFile with
  | .error r => return .error r
  | .ok pidFile =>
    match ← Socket.bind config.socket force with
    | .error r =>
      pidFile.release
      return .error r
    | .ok socket =>
      match ← setUp config { capacity := config.queueCapacity, configPath } socket with
      | .error r =>
        pidFile.release
        return .error r
      | .ok server =>
        return .ok {
          listener := { server, socket := some socket }, pidFile
          shutdown := Shutdown.listen {} }

/-- Whether the server was asked to shut down. -/
def isAsked (d : Daemon) : Bool := d.shutdown.requested || d.listener.server.shutdown

/-- Ends a server that was asked to shut down. -/
def finish (d : Daemon) : Work σ Unit := do
  let l ← d.listener.close
  let _ ← l.server.stopAll
  Work.note .info ("Exiting " ++ Cli.programName)
  d.pidFile.release

/-- What a signal does to a server. -/
def receive (d : Daemon) (signal : Signal) : Work σ Daemon := do
  return { d with shutdown := ← Work.ofNoted (d.shutdown.receive signal) }

end Daemon

end Gatewatch
