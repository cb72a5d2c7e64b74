/-
Failure patterns and ignore patterns. A failure pattern has a group named `host`, for which
the mark `<HOST>` is a short form. Both kinds match line by line: `^` and `$` hold at line
ends too.
-/
import Gatewatch.Error
import Gatewatch.Pattern.Basic
import Gatewatch.Text.Replace
import Gatewatch.Text.Trim

namespace Gatewatch.Filter

/-- The short form of the host group. -/
def hostMark : String := "<HOST>"

/-- What the short form stands for: an address or a host name, perhaps with the lead of an
IPv4 address inside IPv6 before it. -/
def hostPattern : String :=
  "(?:::f\x7b4,6\x7d:)?(?P<host>[0-9a-fA-F]\x7b0,4\x7d(?::[0-9a-fA-F]\x7b0,4\x7d)\x7b2,7\x7d" ++
  "|[\\w\\-.^_]*\\w)"

/-- A pattern with the text it was given as. -/
structure LinePattern where
  source : String
  pattern : Pattern

/-- Reads a pattern. -/
def LinePattern.read (source : String) : Outcome LinePattern :=
  if Text.isBlank source then .error .emptyPattern
  else match Pattern.read? true (Text.replaceAll source hostMark hostPattern) with
    | some pattern => .ok { source, pattern }
    | none => .error (.badPattern source)

/-- A match of a failure pattern: which pattern, the host, and the matched part in bytes. -/
structure Failure where
  index : Nat
  host : String
  span : Pattern.Span
deriving DecidableEq, Repr

/-- The patterns of a filter, in order. -/
structure Patterns where
  fail : List LinePattern := []
  ignore : List LinePattern := []

namespace Patterns

/-- Adds a failure pattern. -/
def addFail (p : Patterns) (source : String) : Outcome Patterns := do
  let line ← LinePattern.read source
  if line.pattern.hasGroup "host" then .ok { p with fail := p.fail ++ [line] }
  else .error (.noHostGroup source)

/-- Adds an ignore pattern. -/
def addIgnore (p : Patterns) (source : String) : Outcome Patterns := do
  let line ← LinePattern.read source
  .ok { p with ignore := p.ignore ++ [line] }

/-- Removes the pattern at an index; the result is its source and the others. -/
def removeAt (lines : List LinePattern) (index : Nat) : Outcome (String × List LinePattern) :=
  match lines[index]? with
  | some line => .ok (line.source, lines.eraseIdx index)
  | none => .error (.patternIndex index lines.length)

/-- Removes a failure pattern; the result is its source and the other patterns. -/
def removeFail (p : Patterns) (index : Nat) : Outcome (String × Patterns) := do
  let (source, fail) ← removeAt p.fail index
  .ok (source, { p with fail })

/-- Removes an ignore pattern; the result is its source and the other patterns. -/
def removeIgnore (p : Patterns) (index : Nat) : Outcome (String × Patterns) := do
  let (source, ignore) ← removeAt p.ignore index
  .ok (source, { p with ignore })

/-- The sources of the failure patterns. -/
def failSources (p : Patterns) : List String := p.fail.map LinePattern.source

/-- The sources of the ignore patterns. -/
def ignoreSources (p : Patterns) : List String := p.ignore.map LinePattern.source

/-- Whether some ignore pattern matches. -/
def ignores (p : Patterns) (text : List Char) : Bool :=
  p.ignore.any fun line => line.pattern.matches? text

/-- The match of one pattern, if its host group took part. -/
def failureOf (line : LinePattern) (index : Nat) (text : List Char) : Option Failure := do
  let m ← line.pattern.find text
  let host ← line.pattern.named? m "host"
  return { index, host := String.ofList (host.text text), span := m.span }

/-- The match of the first of some patterns; `index` is that of the head. -/
def firstFailure (text : List Char) : Nat → List LinePattern → Option Failure
  | _, [] => none
  | index, line :: rest =>
    match failureOf line index text with
    | some f => some f
    | none => firstFailure text (index + 1) rest

/-- The match of the first failure pattern that has one. -/
def findFailure (p : Patterns) (text : List Char) : Option Failure := firstFailure text 0 p.fail

end Patterns

end Gatewatch.Filter
