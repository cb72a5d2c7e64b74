/-
Replacing every occurrence of a mark in a text, from the left, without looking again at what
was put in.
-/

namespace Gatewatch.Text

/-- The characters with every occurrence of `mark` replaced by `value`. An empty mark occurs
nowhere. -/
def replaceChars (mark value : List Char) : List Char → List Char
  | [] => []
  | c :: cs =>
    if mark ≠ [] ∧ mark.isPrefixOf (c :: cs) then
      value ++ replaceChars mark value (cs.drop (mark.length - 1))
    else c :: replaceChars mark value cs
termination_by cs => cs.length

/-- The text with every occurrence of `mark` replaced by `value`. -/
def replaceAll (text mark value : String) : String :=
  String.ofList (replaceChars mark.toList value.toList text.toList)

end Gatewatch.Text
