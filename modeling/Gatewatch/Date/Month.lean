/-
Months by name: the English abbreviations, and German, French and Polish ones that differ
from them. Letter case does not count.
-/
import Gatewatch.Note
import Gatewatch.Text.Quoted
import Gatewatch.Unicode.Case

namespace Gatewatch.Date

/-- The English abbreviations, January first. -/
def englishMonths : List String :=
  ["jan", "feb", "mar", "apr", "may", "jun", "jul", "aug", "sep", "oct", "nov", "dec"]

/-- Abbreviations of other languages. -/
def monthAliases : List (String × Nat) :=
  [("sty", 1), ("fév", 2), ("fev", 2), ("lut", 2), ("mär", 3), ("mrz", 3), ("avr", 4),
   ("kwi", 4), ("mai", 5), ("maj", 5), ("cze", 6), ("lip", 7), ("aoû", 8), ("aou", 8),
   ("sie", 8), ("wrz", 9), ("okt", 10), ("paź", 10), ("paz", 10), ("lis", 11), ("déc", 12),
   ("dez", 12), ("gru", 12)]

/-- The number of an English month. -/
def englishMonth? (name : String) : Option Nat :=
  (englishMonths.idxOf? name).map (· + 1)

/-- The number of a month given by its abbreviation; a foreign one is noted. -/
def month? (name : String) : Noted (Option Nat) := do
  let small := Unicode.lower name
  match englishMonth? small with
  | some month => return some month
  | none =>
    match monthAliases.find? (·.1 == small) with
    | some (_, month) =>
      note .debug ("Replacing month alias " ++ Text.quoted name ++ " with "
        ++ englishMonths.getD (month - 1) "")
      return some month
    | none => return none

end Gatewatch.Date
