/-
Sets of characters as a pattern combines them: single characters, ranges, the named classes
of all scripts and of ASCII, and union, intersection, difference and complement.
-/
import Gatewatch.Pattern.Node
import Gatewatch.Unicode.Case
import Gatewatch.Unicode.Property

namespace Gatewatch.Pattern.CharSet

/-- The set without members. -/
def none : CharSet := ⟨fun _ => false, 0⟩

def single (c : Char) : CharSet := ⟨(· == c), c.utf8Size⟩

/-- The characters from `low` to `high`. -/
def range (low high : Char) : CharSet :=
  ⟨fun c => low ≤ c && c ≤ high, if high.toNat < 128 then 1 else 6⟩

def union (a b : CharSet) : CharSet :=
  ⟨fun c => a.has c || b.has c,
    if a.weight ≤ 1 && b.weight ≤ 1 then 1 else a.weight + b.weight⟩

def inter (a b : CharSet) : CharSet :=
  ⟨fun c => a.has c && b.has c, max a.weight b.weight⟩

def diff (a b : CharSet) : CharSet :=
  ⟨fun c => a.has c && !b.has c, a.weight + b.weight⟩

/-- The characters of exactly one of the sets. -/
def symmDiff (a b : CharSet) : CharSet :=
  ⟨fun c => a.has c != b.has c, a.weight + b.weight⟩

def compl (a : CharSet) : CharSet := ⟨fun c => !a.has c, a.weight + 9⟩

/-- The set with every letter in both cases. With `unicode` the letters of all scripts have
cases, without it those of ASCII. -/
def bothCases (unicode : Bool) (a : CharSet) : CharSet :=
  ⟨fun c => a.has c ||
      (if unicode then (Unicode.variants c).any a.has
       else a.has c.toLower || a.has c.toUpper),
    2 * a.weight⟩

/-- Every character but the line feed. -/
def notNewline : CharSet := ⟨(· != '\n'), 12⟩

-- ======================================================= named classes

/-- The decimal digits, of all scripts or of ASCII. -/
def digit (unicode : Bool) : CharSet :=
  if unicode then ⟨Unicode.isDigit, 110⟩ else ⟨Char.isDigit, 1⟩

/-- The blanks, of all scripts or of ASCII. -/
def blank (unicode : Bool) : CharSet :=
  if unicode then ⟨Unicode.isBlank, 16⟩
  else ⟨fun c => c == ' ' || (9 ≤ c.toNat && c.toNat ≤ 13), 1⟩

/-- The characters of words, of all scripts or of ASCII. -/
def word (unicode : Bool) : CharSet :=
  if unicode then ⟨Unicode.isWord, 1500⟩ else ⟨wordChar true, 1⟩

/-- The ASCII characters between two code points. -/
private def ascii (low high : Nat) (c : Char) : Bool := low ≤ c.toNat && c.toNat ≤ high

/-- The bracketed classes `[:name:]`, which hold ASCII characters alone. -/
def asciiClass? (name : List Char) : Option CharSet :=
  let listed (has : Char → Bool) : Option CharSet := .some ⟨has, 1⟩
  match String.ofList name with
  | "alnum" => listed Char.isAlphanum
  | "alpha" => listed Char.isAlpha
  | "ascii" => listed (ascii 0 127)
  | "blank" => listed fun c => c == ' ' || c == '\t'
  | "cntrl" => listed fun c => ascii 0 31 c || c.toNat == 127
  | "digit" => listed Char.isDigit
  | "graph" => listed (ascii 33 126)
  | "lower" => listed Char.isLower
  | "print" => listed (ascii 32 126)
  | "punct" => listed fun c => ascii 33 126 c && !c.isAlphanum
  | "space" => listed fun c => c == ' ' || ascii 9 13 c
  | "upper" => listed Char.isUpper
  | "word" => listed (wordChar true)
  | "xdigit" => listed fun c => c.isDigit || ascii 65 70 c || ascii 97 102 c
  | _ => .none

end Gatewatch.Pattern.CharSet
