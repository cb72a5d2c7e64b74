/-
Date templates: patterns whose groups hold the parts of a date. A template may be given as
text with `%` fields, of which each stands for a group; everything else in it is pattern
text, and a leading `^` ties it to the start of the line.
-/
import Gatewatch.Date.Fields
import Gatewatch.Error
import Gatewatch.Word

namespace Gatewatch.Date

open Pattern

/-- How the match of a template becomes an instant. -/
inductive TemplateKind where
  /-- By calendar fields. -/
  | fields
  /-- By the seconds since 1970, in group `e`. -/
  | epoch
  /-- By an atomic-time label, sixteen hexadecimal digits of group `x`. -/
  | tai64n
deriving DecidableEq, Repr

/-- A date template. `source` is the text with `%` fields that a user's template was made
from; `hits` counts the dates it supplied. -/
structure Template where
  name : String
  pattern : Pattern
  kind : TemplateKind
  hits : Nat := 0
  source : Option String := none

-- ============================================================ meaning

/-- Reads a number in hexadecimal digits that fits 64 bits. -/
def hex64? (cs : List Char) : Option Nat := do
  let digits := match cs with
    | '+' :: rest => rest
    | _ => cs
  guard !digits.isEmpty
  (← hexNumber? digits) |> fun n => if n < Word.size 64 then some n else none

/-- The fields that a match filled. -/
def fieldsOf (p : Pattern) (m : Pattern.Match) (line : List Char) : Fields :=
  let part (name : String) := (p.named? m name).map (·.text line)
  { year := part "Y", shortYear := part "y", month := part "m", monthName := part "b",
    day := part "d", hour := part "H", minute := part "M", second := part "S",
    zone := part "z" }

/-- The instant that a match of the template stands for. -/
def Template.time? (t : Template) (m : Pattern.Match) (line : List Char) (zone now : Int) :
    Noted (Option Int) :=
  match t.kind with
  | .fields => (fieldsOf t.pattern m line).time? zone now
  | .epoch => return do
    let digits ← (t.pattern.named? m "e").map (·.text line)
    Text.signed? 64 digits
  | .tai64n => return do
    let label ← (t.pattern.named? m "x").map (·.text line)
    let seconds ← hex64? (← bytes? label 0 16)
    guard (Word.size 62 ≤ seconds && seconds - Word.size 62 < Word.size 63)
    return ((seconds - Word.size 62 : Nat) : Int)

-- ============================================================ reading

/-- A template from pattern text. -/
def Template.make (name text : String) (kind : TemplateKind) : Outcome Template :=
  match Pattern.read? false text with
  | some pattern => .ok { name, pattern, kind }
  | none => .error (.badTemplate name)

/-- What a field stands for: its pattern, and its label in the template's name. -/
def fieldPattern? : Char → Option (String × String)
  | 'Y' => some ("(?P<Y>\\d\x7b4\x7d)", "Year")
  | 'y' => some ("(?P<y>\\d\x7b2\x7d)", "Year2")
  | 'm' => some ("(?P<m>\\d\x7b1,2\x7d)", "Month")
  | 'd' => some ("(?P<d>\\d\x7b1,2\x7d)", "Day")
  | 'b' => some ("(?P<b>\\w\x7b3\x7d)", "MON")
  | 'B' => some ("(?P<b>\\w\x7b3\x7d)\\w*", "MONTH")
  | 'a' => some ("\\w\x7b3\x7d", "DAY")
  | 'A' => some ("\\w+", "DAYNAME")
  | 'H' => some ("(?P<H>\\d\x7b2\x7d)", "24hour")
  | 'M' => some ("(?P<M>\\d\x7b2\x7d)", "Minute")
  | 'S' => some ("(?P<S>\\d\x7b2\x7d)", "Second")
  | 'f' => some ("\\d+", "Microseconds")
  | 'z' => some ("(?P<z>Z|[-+]\\d\x7b2\x7d:?\\d\x7b2\x7d)", "Zone offset")
  | 's' => some ("(?P<e>\\d\x7b10\x7d)", "Epoch")
  | '%' => some ("%", "%")
  | _ => none

/-- A part of a user's template: a character of pattern text, or a field. -/
inductive Piece where
  | text (c : Char)
  | field (letter : Char)
deriving DecidableEq, Repr

/-- Splits the text of a template into its parts. -/
def pieces (pattern : String) : List Char → Outcome (List Piece)
  | [] => .ok []
  | ['%'] => .error (.endsWithPercent pattern)
  | '%' :: letter :: rest =>
    if (fieldPattern? letter).isSome then
      (pieces pattern rest).map (Piece.field letter :: ·)
    else .error (.unsupportedField letter pattern)
  | c :: rest => (pieces pattern rest).map (Piece.text c :: ·)

/-- The pattern text of a part. -/
def Piece.pattern : Piece → String
  | text c => c.toString
  | field letter => ((fieldPattern? letter).map (·.1)).getD ""

/-- The label of a part. -/
def Piece.label : Piece → String
  | text c => c.toString
  | field letter => ((fieldPattern? letter).map (·.2)).getD ""

/-- A template from a text with `%` fields. -/
def Template.ofFields (pattern : String) : Outcome Template := do
  let (anchor, body) := match pattern.toList with
    | '^' :: rest => ("^", rest)
    | cs => ("", cs)
  let parts ← pieces pattern body
  let text := anchor ++ String.join (parts.map Piece.pattern)
  let name := String.join (parts.map Piece.label)
  let kind := if parts.contains (.field 's') then TemplateKind.epoch else .fields
  let t ← Template.make name text kind
  return { t with source := some pattern }

end Gatewatch.Date
