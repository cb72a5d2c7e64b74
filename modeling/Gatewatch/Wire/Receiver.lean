/-
Receiving frames. Bytes arrive in chunks of any size, and between two chunks frames may be
asked for. A receiver holds the bytes that have arrived and were not taken, and how many of
them were searched for the end mark before, so that no byte is searched again and again while
a frame is incomplete.
-/
import Gatewatch.Wire.Frame

namespace Gatewatch.Wire

/-- The position of the first end mark in bytes that begin at a position. -/
def markFrom? (position : Nat) : List UInt8 → Option Nat
  | [] => none
  | b :: bytes =>
    if endMark.isPrefixOf (b :: bytes) then some position else markFrom? (position + 1) bytes

/-- What the bytes before an end mark come to. -/
def judge (body : List UInt8) : Decoded :=
  if maxFrame < body.length then .fault .tooLong
  else match readBody body with
    | some v => .frame v
    | none => .fault .malformed

/-- The bytes that have arrived, and how many of them were searched. -/
structure Receiver where
  buffer : List UInt8 := []
  searched : Nat := 0

namespace Receiver

/-- More bytes arrive. -/
def feed (r : Receiver) (bytes : List UInt8) : Receiver :=
  { r with buffer := r.buffer ++ bytes }

/-- The position of the first end mark. The end of what was searched may be the beginning of a
mark that was not there as a whole. -/
def findMark? (r : Receiver) : Option Nat :=
  let start := r.searched - (endMark.length - 1)
  markFrom? start (r.buffer.drop start)

/-- Takes the first frame, good or not. A frame whose end is still to come stays, also when it
is too long already. -/
def decode (r : Receiver) : Decoded × Receiver :=
  match r.findMark? with
  | none =>
    if maxFrame + endMark.length < r.buffer.length then (.fault .unterminated, r)
    else (.incomplete, { r with searched := r.buffer.length })
  | some i => (judge (r.buffer.take i), { buffer := r.buffer.drop (i + endMark.length) })

end Receiver

end Gatewatch.Wire
