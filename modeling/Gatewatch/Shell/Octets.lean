/-
Texts of a shell. A shell knows bytes only: its characters are the numbers below 256, whatever
the text that they encode.
-/
import Gatewatch.Text.Utf8

namespace Gatewatch.Shell

/-- A text of bytes, each as the character of its number. -/
abbrev Octets := List Char

namespace Octets

/-- The bytes of a text. -/
def ofText (s : String) : Octets := (Text.Utf8.encode s).map fun b => Char.ofNat b.toNat

/-- The bytes as numbers. -/
def toBytes (cs : Octets) : List UInt8 := cs.map fun c => UInt8.ofNat c.toNat

/-- The characters of some bytes. -/
def ofBytes (bytes : List UInt8) : Octets := bytes.map fun b => Char.ofNat b.toNat

/-- The text that bytes encode, as well as they do. -/
def toText (cs : Octets) : String := Text.Utf8.lossy (toBytes cs)

/-- The digits of a number. -/
def ofNat (n : Nat) : Octets := (toString n).toList

/-- The digits of a number with its sign. -/
def ofInt (n : Int) : Octets := (toString n).toList

end Octets

end Gatewatch.Shell
