/-
Splitting a text at a character. There is one piece more than the text holds that character,
so a text without it is its own only piece.
-/

namespace Gatewatch.Text

/-- The pieces of some characters; `done` holds those before them that belong to the first
piece, the latest first. -/
def splitFrom (sep : Char) (done : List Char) : List Char → List String
  | [] => [String.ofList done.reverse]
  | c :: cs =>
    if c = sep then String.ofList done.reverse :: splitFrom sep [] cs
    else splitFrom sep (c :: done) cs

/-- The pieces of a text between the places where a character stands. -/
def split (sep : Char) (text : String) : List String := splitFrom sep [] text.toList

end Gatewatch.Text
