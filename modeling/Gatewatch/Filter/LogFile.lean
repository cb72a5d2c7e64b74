/-
Log files that are read as they grow. What is read is complete lines; a line without its end
waits until the end arrives. A file is the same as before as long as its node and its first
line are, and it is not shorter than what was read; otherwise reading starts anew.
-/
import Gatewatch.Disk.Tree
import Gatewatch.Error
import Gatewatch.Note
import Gatewatch.Text.Charset

namespace Gatewatch.Filter

/-- The byte that ends a line. -/
def lineEnd : UInt8 := 10

/-- The byte that may stand before a line end without counting. -/
def carriageReturn : UInt8 := 13

/-- The first line of a file with its end, if it has one. -/
def firstLine : List UInt8 → List UInt8
  | [] => []
  | b :: bytes => if b = lineEnd then [b] else b :: firstLine bytes

/-- Cuts bytes into complete lines, without their ends; `line` holds the bytes of the current
line, the latest first, and `done` the lines before, the latest first. -/
def cutLines (done : List (List UInt8)) (line : List UInt8) :
    List UInt8 → List (List UInt8)
  | [] => done.reverse
  | b :: bytes =>
    if b = lineEnd then cutLines (line.reverse :: done) [] bytes
    else cutLines done (b :: line) bytes

/-- The complete lines of some bytes, without their ends. -/
def completeLines (bytes : List UInt8) : List (List UInt8) := cutLines [] [] bytes

/-- The number of bytes of complete lines with their ends. -/
def spanOf : List (List UInt8) → Nat
  | [] => 0
  | line :: rest => line.length + 1 + spanOf rest

/-- A line without the return at its end. -/
def withoutReturn (line : List UInt8) : List UInt8 :=
  match line.reverse with
  | b :: rest => if b = carriageReturn then rest.reverse else line
  | [] => line

/-- What tells a file from another under the same name. -/
structure Identity where
  node : Nat
  firstLine : List UInt8
deriving DecidableEq

/-- A file, and how much of it was read. `warned` tells that a line was reported that could not
be decoded. -/
structure LogFile where
  path : String
  tail : Bool
  position : Nat
  identity : Identity
  charset : Text.Charset := Text.Charset.utf8
  warned : Bool := false

namespace LogFile

/-- The identity and the bytes of the file that a path names. -/
def look (files : Disk.Tree) (path : String) : Outcome (Identity × List UInt8) :=
  match files.find path with
  | .error e => .error (.unopenable path e)
  | .ok (node, _) => match files.read path with
    | .ok bytes => .ok (⟨node, firstLine bytes⟩, bytes)
    | .error .noDevice => .error (.unopenable path .noDevice)
    | .error e => .error (.unreadable path e)

/-- Opens a file; with `tail`, what is in it counts as read. -/
def openAt (files : Disk.Tree) (path : String) (tail : Bool) : Outcome LogFile := do
  let (identity, bytes) ← look files path
  return { path, tail, position := if tail then bytes.length else 0, identity }

/-- Decodes lines by another charset from now on. -/
def setCharset (f : LogFile) (charset : Text.Charset) : LogFile :=
  { f with charset, warned := false }

/-- Decodes one line. -/
def decodeLine (f : LogFile) (decoders : Text.Decoders) (line : List UInt8) :
    Noted (LogFile × String) := do
  let raw := withoutReturn line
  let text := f.charset.decode raw decoders
  if f.charset.malformed raw decoders && !f.warned then
    note .warn ("Error decoding line from " ++ f.path ++ " as " ++ f.charset.name
      ++ "; invalid bytes were replaced")
    return ({ f with warned := true }, text)
  else return (f, text)

/-- Decodes lines in order. -/
def decodeLines (f : LogFile) (decoders : Text.Decoders) :
    List (List UInt8) → Noted (LogFile × List String)
  | [] => return (f, [])
  | line :: rest => do
    let (f, text) ← f.decodeLine decoders line
    let (f, texts) ← decodeLines f decoders rest
    return (f, text :: texts)

/-- Whether what is at the path now is another file, or less of it than was read. -/
def isReplaced (f : LogFile) (identity : Identity) (size : Nat) : Bool :=
  identity != f.identity || size < f.position

/-- The file as it is read on: from its start, if what is at the path now is another. -/
def renew (f : LogFile) (identity : Identity) (size : Nat) : LogFile :=
  if f.isReplaced identity size then { f with identity, position := 0 } else f

/-- Reads the complete lines of some bytes from the position on. -/
def readOn (f : LogFile) (bytes : List UInt8) (decoders : Text.Decoders) :
    Noted (LogFile × List String) := do
  let lines := completeLines (bytes.drop f.position)
  if lines.isEmpty then return (f, [])
  let (f, texts) ← { f with position := f.position + spanOf lines }.decodeLines decoders
    (lines.filter fun l => !l.isEmpty)
  note .debug ("Read " ++ toString texts.length ++ " new line(s) from " ++ f.path)
  return (f, texts)

/-- Reads the lines that were completed since the last time. -/
def readLines (f : LogFile) (files : Disk.Tree) (decoders : Text.Decoders := Text.asciiOnly) :
    Noted (Outcome (LogFile × List String)) :=
  match look files f.path with
  | .error e => return .error e
  | .ok (identity, bytes) => do
    if f.isReplaced identity bytes.length then
      note .info ("Log rotation detected for " ++ f.path)
    return .ok (← (f.renew identity bytes.length).readOn bytes decoders)

end LogFile

end Gatewatch.Filter
