/-
Reading whole numbers: decimal digits with an optional sign, and nothing else, within the
bounds of a word. A sign alone is no number, and an unsigned number has no minus sign.
-/
import Gatewatch.Word

namespace Gatewatch.Text

/-- The number that decimal digits write; nothing for an empty list or another character. -/
def digits? (cs : List Char) : Option Nat :=
  if cs.isEmpty || !cs.all Char.isDigit then none
  else some (cs.foldl (fun n c => 10 * n + (c.toNat - 48)) 0)

/-- Reads an unsigned number below `bound`. -/
def unsigned? (bound : Nat) (cs : List Char) : Option Nat :=
  let digits := match cs with
    | '+' :: rest => rest
    | _ => cs
  (digits? digits).filter (· < bound)

/-- Reads a signed number of `bits` bits. -/
def signed? (bits : Nat) (cs : List Char) : Option Int :=
  match cs with
  | '-' :: rest => ((digits? rest).filter (· ≤ Word.size (bits - 1))).map fun n => -(n : Int)
  | _ => (unsigned? (Word.size (bits - 1)) cs).map fun n => (n : Int)

end Gatewatch.Text
