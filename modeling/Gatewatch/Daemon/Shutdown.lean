/-
The wish to shut down. It may come from within, or from a signal to the process while one is
listened for; once it has come it stays. The first signal ends the listening.
-/
import Gatewatch.Note

namespace Gatewatch

/-- The signals that ask the program to end. -/
inductive Signal where
  | interrupt
  | terminate
deriving DecidableEq, Repr

/-- The name of a signal. -/
def Signal.text : Signal → String
  | interrupt => "SIGINT"
  | terminate => "SIGTERM"

/-- Whether the shutdown was asked for, and whether signals are listened for. -/
structure Shutdown where
  requested : Bool := false
  listening : Bool := false
deriving DecidableEq, Repr

namespace Shutdown

/-- Asks for the shutdown. -/
def request (_ : Shutdown) : Shutdown := { requested := true, listening := false }

/-- Listens for signals from now on. -/
def listen (s : Shutdown) : Shutdown := { s with listening := !s.requested }

/-- What a signal does. -/
def receive (s : Shutdown) (signal : Signal) : Noted Shutdown :=
  if s.listening then do
    note .info ("Received " ++ signal.text ++ ", initiating graceful shutdown...")
    return s.request
  else return s

end Shutdown

end Gatewatch
