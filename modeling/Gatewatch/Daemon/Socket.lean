/-
The control socket. A connection carries one request and one reply: the first frame that
arrives is the request, and whatever is wrong with it is told in the reply. A connection that
ends before anything arrived gets none.
-/
import Gatewatch.Disk.Name
import Gatewatch.Server.Request
import Gatewatch.Wire.Frame

namespace Gatewatch

/-- A socket that a server listens on. -/
structure Socket where
  path : String
  node : Nat
deriving DecidableEq, Repr

namespace Socket

variable {σ : Type}

/-- Takes the place of a socket. What is there already is only removed by force. -/
def bind (path : String) (force : Bool) : Work σ (Except Report Socket) := do
  let failed (message : String) (e : Disk.Fault) : Except Report Socket :=
    .error { message, causes := [e.text] }
  if (← Work.files).exists? path then
    if !force then
      return .error { message := "Socket " ++ path
        ++ " already exists. Is the server already running? Use --force to remove it" }
    Work.note .warn ("Removing existing socket " ++ path)
    match (← Work.files).remove path with
    | .error e => return failed ("Failed to remove " ++ path) e
    | .ok files => modify ({ · with files })
  let directory := Disk.parent? path
  match (← Work.files).makeParents directory with
  | .error e => return failed ("Failed to create " ++ directory.getD "") e
  | .ok files =>
    modify ({ · with files })
    match files.makeSocket path with
    | .error e => return failed ("Failed to bind control socket " ++ path) e
    | .ok (node, files) =>
      modify ({ · with files })
      Work.note .info ("Listening on " ++ path)
      return .ok { path, node }

/-- Gives the socket up, and removes what is in its place. -/
def close (s : Socket) : Work σ Unit := do
  match (← Work.files).remove s.path with
  | .ok files => modify ({ · with files })
  | .error e => Work.note .debug ("Unable to remove " ++ s.path ++ ": " ++ e.text)

end Socket

namespace Wire

/-- What is wrong with a connection that ended within a frame. -/
def cutShort : String := "bytes remaining on stream"

/-- What a connection brought: all its bytes, after which it ended. -/
inductive Arrival where
  | nothing
  | frame (v : Json.Value)
  | fault (text : String)

/-- The bytes of a frame and its end mark, beyond which no frame is waited for. -/
def maxPending : Nat := maxFrame + endMark.length + 1

/-- What the bytes of a connection bring. They arrive little by little, so a frame without an
end is noticed as soon as it is too long. -/
def arrival (bytes : List UInt8) : Arrival :=
  let early := bytes.take maxPending
  match decode (if (cut early).isSome then bytes else early) with
  | (.frame v, _) => .frame v
  | (.fault f, _) => .fault f.text
  | (.incomplete, rest) => if rest.isEmpty then .nothing else .fault cutShort

end Wire

namespace Server

variable {σ : Type} [Shell σ]

/-- The reply to what a connection brought, if there is one. -/
def hear (s : Server) : Wire.Arrival → Work σ (Option Wire.Reply × Server)
  | .nothing => return (none, s)
  | .fault text => do
    Work.note .warn ("Invalid control request: " ++ text)
    return (some (.error ("Protocol error: " ++ text)), s)
  | .frame v =>
    match Wire.readRequest v with
    | .error e => return (some (.error e.message), s)
    | .ok args => s.proceed args

/-- Serves a connection: the bytes that are sent back. -/
def serve (s : Server) (bytes : List UInt8) : Work σ (List UInt8 × Server) := do
  match ← s.hear (Wire.arrival bytes) with
  | (none, s) => return ([], s)
  | (some reply, s) =>
    match Wire.encode reply.toValue with
    | .ok bytes => return (bytes, s)
    | .error e =>
      Work.note .debug ("Unable to send reply: " ++ e.text)
      return ([], s)

end Server

end Gatewatch
