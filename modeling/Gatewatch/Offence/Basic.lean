/-
Offences: failed attempts of one source, as a log shows them.
-/
import Gatewatch.Net.Address
import Gatewatch.Word

namespace Gatewatch

/-- Failed attempts of a source: when the last was made, how many they are, and the lines that
tell of them. -/
structure Offence where
  source : Net.Address
  time : Int
  attempts : Nat := 1
  lines : List String := []
deriving DecidableEq

namespace Offence

/-- Counts of attempts stop here. -/
def maxAttempts : Nat := Word.size 32 - 1

/-- The beginning of a window of some seconds that ends at an instant. Instants are signed words
of 64 bits, and what does not fit in one is cut. -/
def horizon (time window : Int) : Int := Word.wrap 64 (time - window)

theorem horizon_of_fits {time window : Int} (h : Word.Fits 64 (time - window)) :
    horizon time window = time - window := Word.wrap_of_fits (by decide) h

/-- How much an offence counts: never less than one attempt. -/
def weight (o : Offence) : Nat := max 1 o.attempts

end Offence

end Gatewatch
