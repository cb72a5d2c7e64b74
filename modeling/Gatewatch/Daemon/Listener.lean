/-
A server that listens on its socket. The socket is given up when the server is asked to shut
down.
-/
import Gatewatch.Client

namespace Gatewatch

/-- A server, and its socket while that is open. -/
structure Listener where
  server : Server
  socket : Option Socket

namespace Listener

variable {σ : Type}

/-- Gives the socket up. -/
def close (l : Listener) : Work σ Listener := do
  match l.socket with
  | none => return l
  | some socket =>
    Work.note .debug "Control socket closing"
    socket.close
    return { l with socket := none }

variable [Shell σ]

/-- Serves a connection: the bytes that are sent back. -/
def serve (l : Listener) (bytes : List UInt8) : Work σ (List UInt8 × Listener) := do
  let (reply, server) ← l.server.serve bytes
  let l := { l with server }
  return (reply, ← if server.shutdown then l.close else pure l)

/-- Serves a client that sends a request to a path. -/
def answer (l : Listener) (path : String) (words : List String) :
    Work σ (Except Report Wire.Reply × Listener) := do
  match (Client.connect (← Work.files) l.socket path).bind fun _ => Client.request words with
  | .error r => return (.error r, l)
  | .ok bytes =>
    let (reply, l) ← l.serve bytes
    return (Client.readReply reply, l)

/-- Shuts the server down. -/
def shutDown (l : Listener) : Work σ Listener := do
  let server ← l.server.quit
  Listener.close { l with server }

end Listener

end Gatewatch
