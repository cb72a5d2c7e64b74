/-
Addresses as texts give them: a network block, or a text that writes none. Reading never
fails, so that a host name can stand wherever an address can.
-/
import Gatewatch.Net.Literal
import Gatewatch.Text.Trim

namespace Gatewatch.Net

/-- A network block, or the trimmed text of something else. -/
inductive Address where
  | block (b : Block)
  | other (text : String)
deriving DecidableEq

/-- Reads an unsigned number that fits a byte, with an optional plus sign. -/
def byteNumber? (cs : List Char) : Option Nat :=
  let digits := match cs with
    | '+' :: rest => rest
    | _ => cs
  if digits.isEmpty || !digits.all Char.isDigit then none
  else (some (ofDigits 10 (leadingDigits 10 digits))).filter (· < 256)

/-- The text without the brackets around it, if it has both. -/
def unbracket (cs : List Char) : List Char :=
  match cs with
  | '[' :: rest => match rest.reverse with
    | ']' :: inner => inner.reverse
    | _ => cs
  | _ => cs

namespace Block

/-- Reads a literal, perhaps in brackets, perhaps with a slash and a length behind it. -/
def read? (cs : List Char) : Option Block := do
  let host := cs.takeWhile (· != '/')
  let (family, value) ← literal? (unbracket host)
  match cs.drop host.length with
  | _ :: length => written? family value (← byteNumber? length)
  | [] => host? family value

/-- The base address and the length. -/
def cidrText (b : Block) : String := literalText b.family b.base ++ "/" ++ toString b.length

/-- The address of a single host, or the base and the length. -/
def text (b : Block) : String :=
  if b.isHost then literalText b.family b.base else b.cidrText

end Block

namespace Address

/-- Reads an address; blanks around it do not count. -/
def parse (text : String) : Address :=
  let trimmed := Text.trim text
  match Block.read? trimmed.toList with
  | some b => block b
  | none => other trimmed

/-- The address of a single host, given as a number of its family. A number that is too
large for the family gives its decimal text. -/
def ofHost (family : Family) (value : Nat) : Address :=
  match Block.host? family value with
  | some b => block b
  | none => other (toString value)

/-- The block, if the address is one. -/
def block? : Address → Option Block
  | block b => some b
  | other _ => none

/-- Whether the address is a block. -/
def isValid (a : Address) : Bool := a.block?.isSome

/-- The usual text of a block, or the text itself. -/
def text : Address → String
  | block b => b.text
  | other t => t

/-- What sums up the parts of a value in a state, one by one. -/
structure Hasher (σ : Type) where
  family : σ → Option Family → σ
  number : σ → Option Nat → σ
  length : σ → Nat → σ
  text : σ → String → σ

/-- Sums up an address: family, base and length of a block, or the text. -/
def hash {σ : Type} (h : Hasher σ) (s : σ) : Address → σ
  | block b => h.length (h.number (h.family s (some b.family)) (some b.base)) b.length
  | other t => h.text s t

/-- Whether the base of `a` lies in `net`. -/
def contains (net a : Address) : Bool :=
  match net, a with
  | block n, block b => n.contains b
  | _, _ => false

end Address

end Gatewatch.Net
