/-
Clients. A client sends one request to the socket of a server and takes the reply. A reply of
success is printed: a text as it is, nothing for null, and JSON for all else; any other reply
is a failure with the text of its value.
-/
import Gatewatch.Daemon.Socket

namespace Gatewatch.Client

/-- The socket to use: the one that is given, or that of the configuration. -/
def socketPath (files : Disk.Tree) (socket config : Option String) :
    Noted (Except Report String) := do
  match socket with
  | some path => return .ok path
  | none =>
    match ← Config.find files config with
    | .ok (c, _) => return .ok c.socket
    | .error fault => return .error fault.report

/-- The report of a socket that cannot be connected to. -/
def unconnected (path : String) (e : Disk.Fault) : Report :=
  { message := "Failed to connect to " ++ path ++ ". Is the server running?", causes := [e.text] }

/-- Connects to the socket at a path, if that is one that is served. -/
def connect (files : Disk.Tree) (served : Option Socket) (path : String) :
    Except Report Unit :=
  match files.findSocket path with
  | .error e => .error (unconnected path e)
  | .ok node =>
    if served.any (·.node == node) then .ok () else .error (unconnected path .refused)

/-- The bytes of a request. -/
def request (words : List String) : Except Report (List UInt8) :=
  match Wire.encode (.strings words) with
  | .ok bytes => .ok bytes
  | .error e => .error { message := "Failed to send request", causes := [e.text] }

/-- Reads the bytes of a reply. -/
def readReply (bytes : List UInt8) : Except Report Wire.Reply :=
  match Wire.arrival bytes with
  | .nothing => .error { message := "Server closed the connection without replying" }
  | .fault text => .error { message := "Failed to read reply", causes := [text] }
  | .frame v => match Wire.Reply.ofValue v with
    | .ok reply => .ok reply
    | .error e => .error { message := e.message }

/-- A value as it is printed. -/
def plain : Json.Value → String
  | .null => ""
  | .str s => s
  | v => v.text

/-- What is printed for a reply. -/
def printed (reply : Wire.Reply) : Except Report String :=
  let text := plain reply.value
  if !reply.isOk then .error { message := text }
  else .ok (if text = "" then "" else text ++ "\n")

end Gatewatch.Client
