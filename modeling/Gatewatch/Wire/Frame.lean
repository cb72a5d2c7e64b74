/-
Frames on the control connection. A frame is a JSON text with an end mark behind it. The bytes
that have arrived are a buffer; decoding takes the first frame out of it, up to and with its
end mark, whether or not the frame is good.
-/
import Gatewatch.Json.Reader
import Gatewatch.Json.Writer
import Gatewatch.Text.Utf8

namespace Gatewatch.Wire

/-- The text of the end mark. -/
def endText : String := "<F2B_END_COMMAND>"

/-- The bytes of the end mark. -/
def endMark : List UInt8 := Text.Utf8.encode endText

/-- The greatest number of bytes before the end mark. -/
def maxFrame : Nat := 1024 * 1024

/-- What is wrong with a frame. -/
inductive FrameFault where
  | unterminated
  | tooLong
  | malformed
deriving DecidableEq, Repr

/-- The description of a fault. -/
def FrameFault.text : FrameFault → String
  | unterminated => "frame exceeds " ++ toString maxFrame ++ " bytes without terminator"
  | tooLong => "frame exceeds " ++ toString maxFrame ++ " bytes"
  | malformed => "malformed frame"

/-- What a buffer starts with. -/
inductive Decoded where
  /-- No frame yet. -/
  | incomplete
  | frame (v : Json.Value)
  | fault (f : FrameFault)

/-- Cuts bytes at the first end mark; `done` holds those before, the latest first. -/
def cutFrom (done : List UInt8) : List UInt8 → Option (List UInt8 × List UInt8)
  | [] => none
  | b :: bytes =>
    if endMark.isPrefixOf (b :: bytes) then
      some (done.reverse, (b :: bytes).drop endMark.length)
    else cutFrom (b :: done) bytes

/-- The bytes before the first end mark and those behind it. -/
def cut (bytes : List UInt8) : Option (List UInt8 × List UInt8) := cutFrom [] bytes

/-- Reads the JSON text of a frame. -/
def readBody (body : List UInt8) : Option Json.Value := do
  let text ← String.fromUTF8? ⟨body.toArray⟩
  Json.parse? text

/-- Takes the first frame out of a buffer; the result holds the bytes that are left. -/
def decode (buffer : List UInt8) : Decoded × List UInt8 :=
  match cut buffer with
  | none =>
    if maxFrame + endMark.length < buffer.length then (.fault .unterminated, buffer)
    else (.incomplete, buffer)
  | some (body, rest) =>
    if maxFrame < body.length then (.fault .tooLong, rest)
    else match readBody body with
      | some v => (.frame v, rest)
      | none => (.fault .malformed, rest)

/-- The bytes of a frame. -/
def encode (v : Json.Value) : Except FrameFault (List UInt8) :=
  let body := Text.Utf8.encode v.text
  if maxFrame < body.length then .error .tooLong else .ok (body ++ endMark)

end Gatewatch.Wire
