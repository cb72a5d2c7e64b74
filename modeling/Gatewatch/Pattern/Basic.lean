/-
Patterns and their matches. A pattern matches at the first place of a text where its node
has a match, with the end that the node prefers there.
-/
import Gatewatch.Pattern.Written
import Gatewatch.Text.Cut

namespace Gatewatch

open Pattern

/-- A pattern with the text it was read from. -/
structure Pattern where
  source : String
  root : Node

namespace Pattern

/-- The greatest weight of a pattern: ten mebibytes of states of 32 bytes. -/
def maxWeight : Nat := 10 * 1024 * 1024 / 32

/-- Reads a pattern. With `multiLine`, `^` and `$` match at line ends too. -/
def read? (multiLine : Bool) (source : String) : Option Pattern := do
  let root ← Node.read? { multiLine } source
  guard (root.weight ≤ maxWeight)
  return ⟨source, root⟩

/-- Whether the pattern has a group of that name. -/
def hasGroup (p : Pattern) (name : String) : Bool :=
  p.root.groupNames.any (·.1 == name)

/-- A match: where it lies, and the groups it went through, the latest first. -/
structure Match where
  span : Span
  groups : List (Nat × Span)

/-- The match of a node that starts at a place, if there is one. -/
def Node.matchAt? (node : Node) (c : Cursor) : Option Match :=
  (node.threads ⟨c, []⟩).head?.map fun t => ⟨⟨c.offset, t.cursor.offset⟩, t.groups⟩

/-- The first match that starts at the given place or behind it. -/
def Node.findFrom (node : Node) (before : Option Char) (offset : Nat) :
    List Char → Option Match
  | [] => node.matchAt? ⟨before, [], offset⟩
  | ch :: rest =>
    match node.matchAt? ⟨before, ch :: rest, offset⟩ with
    | some m => some m
    | none => node.findFrom (some ch) (offset + ch.utf8Size) rest

/-- The first match in a text. -/
def Node.find (node : Node) (text : List Char) : Option Match :=
  node.findFrom none 0 text

/-- The first match in a text. -/
def find (p : Pattern) (text : List Char) : Option Match := p.root.find text

/-- Whether the pattern matches anywhere in a text. -/
def matches? (p : Pattern) (text : List Char) : Bool := (p.find text).isSome

/-- What the group of a name matched, in bytes. -/
def named? (p : Pattern) (m : Match) (name : String) : Option Span := do
  let (_, index) ← p.root.groupNames.find? (·.1 == name)
  let (_, span) ← m.groups.find? (·.1 == index)
  return span

/-- The text of a part. -/
def Span.text (s : Span) (text : List Char) : List Char := Text.between text s.start s.stop

end Pattern

end Gatewatch
