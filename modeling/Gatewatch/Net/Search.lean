/-
Finding an address inside a text. IPv4 literals come first: a run of digits and points that
has the shape of one, with something else or nothing on either side. The scan takes the
character behind such a run as part of it, so a run that follows after just one character
is passed over, even when the first run turned out to be no address.

A text without an IPv4 literal is searched for runs of hexadecimal groups and colons.
-/
import Gatewatch.Net.Address
import Gatewatch.Pattern.Basic
import Gatewatch.Text.Split

namespace Gatewatch.Net

-- ================================================================ IPv4

/-- A digit or a point. -/
def isQuadChar (c : Char) : Bool := c.isDigit || c == '.'

/-- Whether a run of digits and points is four numbers of one to three digits. -/
def quadShaped (run : List Char) : Bool :=
  let parts := Text.splitFrom '.' [] run
  parts.length == 4 && parts.all fun p => 1 ≤ p.length && p.length ≤ 3

/-- The runs that have the shape of an IPv4 address, as the scan meets them. `free` tells
that a run may start here: at the start of the text, or behind a character that no earlier
run took. -/
def quadRuns : Nat → Bool → List Char → List (List Char)
  | 0, _, _ => []
  | _, _, [] => []
  | fuel + 1, free, c :: cs =>
    if isQuadChar c then
      let run := c :: cs.takeWhile isQuadChar
      let rest := cs.dropWhile isQuadChar
      if free && quadShaped run then run :: quadRuns fuel false (rest.drop 1)
      else quadRuns fuel false rest
    else quadRuns fuel true cs

/-- The first IPv4 address of a text. -/
def searchQuad (text : List Char) : Option Nat :=
  (quadRuns text.length true text).findSome? quad?

-- ================================================================ IPv6

open Pattern in
/-- Hexadecimal groups with two to seven colons, perhaps with an IPv4 address behind. -/
def sixNode : Node :=
  let hex : CharSet := ⟨fun c => (digitValue? 16 c).isSome, 1⟩
  let digit : CharSet := ⟨Char.isDigit, 1⟩
  let group := Node.run hex 0 (some 4) true
  let number := Node.run digit 1 (some 3) true
  .concat [
    group,
    (Node.seq (.char ':') group).repeated 2 (some 7) true,
    (Node.seq number (.times 3 (.seq (.char '.') number))).optional true]

/-- The matches of a node that follow one another without overlap. -/
def matchesFrom (node : Pattern.Node) : Nat → Option Char → List Char → List (List Char)
  | 0, _, _ => []
  | fuel + 1, before, text =>
    match node.findFrom before 0 text with
    | none => []
    | some m =>
      let found := m.span.text text
      let rest := Text.beyond m.span.stop text
      found :: matchesFrom node fuel found.getLast? rest

/-- The first IPv6 address of a text. -/
def searchSix (text : List Char) : Option Nat :=
  (matchesFrom sixNode text.length none text).findSome? groups?

/-- The first address of a text. -/
def search (text : String) : Option Address :=
  match searchQuad text.toList with
  | some value => some (.ofHost .v4 value)
  | none => (searchSix text.toList).map (.ofHost .v6 ·)

end Gatewatch.Net
