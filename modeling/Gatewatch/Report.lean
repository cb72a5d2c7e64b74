/-
Reports of failures to whoever started the program: what failed, and why, from the outermost
cause to the innermost.
-/
import Gatewatch.Text.Split

namespace Gatewatch

/-- A failure with its causes. -/
structure Report where
  message : String
  causes : List String := []
deriving DecidableEq, Repr

namespace Report

/-- The failure and its causes in one line. -/
def line (r : Report) : String := ": ".intercalate (r.message :: r.causes)

/-- A text indented by a lead, its further lines by as many blanks. -/
def indented (lead text : String) : String :=
  let margin := String.ofList (List.replicate lead.length ' ')
  lead ++ ("\n" ++ margin).intercalate (Text.split '\n' text)

/-- The lead of the cause with a number. -/
def numberLead (n : Nat) : String :=
  let digits := toString n
  String.ofList (List.replicate (5 - digits.length) ' ') ++ digits ++ ": "

/-- The failure as the program ends with it. A single cause is not numbered. -/
def text (r : Report) : String :=
  match r.causes with
  | [] => "Error: " ++ r.message ++ "\n"
  | [cause] => "Error: " ++ r.message ++ "\n\nCaused by:\n" ++ indented "    " cause ++ "\n"
  | causes =>
    "Error: " ++ r.message ++ "\n\nCaused by:\n"
      ++ String.join ((causes.zipIdx).map fun (cause, n) =>
        indented (numberLead n) cause ++ "\n")

end Report

end Gatewatch
