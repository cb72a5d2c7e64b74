/-
The lines of a log. A record is a line that starts with its time and its level; lines that do
not start so belong to the record before them.
-/
import Gatewatch.Date.Civil
import Gatewatch.Note
import Gatewatch.Text.Split

namespace Gatewatch.Log

/-- The line of a note: the time, the level in a column of five, and the text. -/
def line (now : Int) (n : Note) : String :=
  let moment := (Date.formatTime now).map fun c => if c = ' ' then 'T' else c
  let margin := if n.level.text.length < 5 then " " else ""
  moment ++ ".000000Z " ++ margin ++ n.level.text ++ " " ++ n.text ++ "\n"

/-- The place of the sign behind the time of a line. -/
def timeEnd : Nat := 26

/-- The level and the text of a line that starts a record. -/
def head? (line : String) : Option (String × String) :=
  let cs := line.toList
  if cs[timeEnd]? = some 'Z' && cs[10]? = some 'T' then
    some (String.ofList (((cs.drop (timeEnd + 2)).take 5).filter (· != ' ')),
      String.ofList (cs.drop (timeEnd + 8)))
  else none

/-- Puts a line to the records before it, the latest first. -/
def addLine (records : List (String × String)) (line : String) : List (String × String) :=
  match head? line, records with
  | some record, _ => record :: records
  | none, (level, text) :: rest => (level, text ++ "\n" ++ line) :: rest
  | none, [] => []

/-- The records of a log: levels and texts, without the times. -/
def records (text : String) : List (String × String) :=
  let lines := Text.split '\n' text
  let lines := if lines.getLast? = some "" then lines.dropLast else lines
  (lines.foldl addLine []).reverse

end Gatewatch.Log
