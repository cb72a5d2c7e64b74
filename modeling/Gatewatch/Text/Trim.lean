/-
Removing the blanks around a text. A blank is a character with the property White_Space.
-/
import Gatewatch.Unicode.Classes

namespace Gatewatch.Text

/-- The characters without the blanks in front. -/
def trimStartChars (cs : List Char) : List Char := cs.dropWhile Unicode.isBlank

/-- The characters without the blanks behind. -/
def trimEndChars (cs : List Char) : List Char := (trimStartChars cs.reverse).reverse

/-- A text without the blanks around it. -/
def trim (s : String) : String :=
  String.ofList (trimEndChars (trimStartChars s.toList))

/-- A text without the blanks behind it. -/
def trimEnd (s : String) : String := String.ofList (trimEndChars s.toList)

/-- Whether a text holds nothing but blanks. -/
def isBlank (s : String) : Bool := s.toList.all Unicode.isBlank

end Gatewatch.Text
