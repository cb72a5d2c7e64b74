/-
Address literals: IPv4 addresses as four decimal numbers, IPv6 addresses as up to eight
groups of hexadecimal digits with at most one gap of zeros, the last two groups perhaps as
an IPv4 address. Each reader takes the characters that are left and returns the value with
the characters behind it; `quad?` and `groups?` want the whole text.

`quadText` and `groupsText` write an address in its usual form: no leading zeros, small
letters, and the first of the longest runs of two or more zero groups as the gap.
-/
import Gatewatch.Net.Block
import Gatewatch.Word

namespace Gatewatch.Net

-- ============================================================= reading

/-- The value of a digit in a base up to sixteen. -/
def digitValue? (base : Nat) (c : Char) : Option Nat :=
  let value :=
    if '0' ≤ c && c ≤ '9' then some (c.toNat - 48)
    else if 'a' ≤ c && c ≤ 'f' then some (c.toNat - 87)
    else if 'A' ≤ c && c ≤ 'F' then some (c.toNat - 55)
    else none
  value.filter (· < base)

/-- The digits at the front of a text. -/
def leadingDigits (base : Nat) (cs : List Char) : List Nat :=
  (cs.takeWhile fun c => (digitValue? base c).isSome).filterMap (digitValue? base)

/-- The number that digits write. -/
def ofDigits (base : Nat) (digits : List Nat) : Nat :=
  digits.foldl (fun n d => base * n + d) 0

/-- Reads a number of at most `count` digits. Unless `zeros` is set, only the number zero
starts with a zero. -/
def readNumber (base count : Nat) (zeros : Bool) (cs : List Char) : Option (Nat × List Char) :=
  let digits := leadingDigits base cs
  if digits.isEmpty || count < digits.length then none
  else if !zeros && 1 < digits.length && digits.head? == some 0 then none
  else some (ofDigits base digits, cs.drop digits.length)

/-- Reads one byte of an IPv4 address. -/
def readByte (cs : List Char) : Option (Nat × List Char) :=
  (readNumber 10 3 false cs).filter (·.1 < 256)

/-- Reads the given character. -/
def readMark (mark : Char) : List Char → Option (List Char)
  | c :: cs => if c = mark then some cs else none
  | [] => none

/-- Reads an IPv4 address. -/
def readQuad (cs : List Char) : Option (Nat × List Char) := do
  let (a, cs) ← readByte cs
  let (b, cs) ← readByte (← readMark '.' cs)
  let (c, cs) ← readByte (← readMark '.' cs)
  let (d, cs) ← readByte (← readMark '.' cs)
  return (((a * 256 + b) * 256 + c) * 256 + d, cs)

/-- Reads up to `room` groups, separated by colons; `first` tells that no group came before.
An IPv4 address ends the list and fills two groups. The result tells whether one did. -/
def readGroups : Nat → Bool → List Char → List Nat × Bool × List Char
  | 0, _, cs => ([], false, cs)
  | room + 1, first, cs =>
    match (if first then some cs else readMark ':' cs) with
    | none => ([], false, cs)
    | some after =>
      match (if room = 0 then none else readQuad after) with
      | some (value, rest) => ([value / 65536, value % 65536], true, rest)
      | none =>
        match readNumber 16 4 true after with
        | some (group, rest) =>
          let (groups, quad, rest) := readGroups room false rest
          (group :: groups, quad, rest)
        | none => ([], false, cs)

/-- The address that groups make up. -/
def ofGroups (groups : List Nat) : Nat := ofDigits 65536 groups

/-- Reads an IPv6 address: eight groups, or fewer around a gap. -/
def readSix (cs : List Char) : Option (Nat × List Char) :=
  let (front, quad, rest) := readGroups 8 true cs
  if front.length = 8 then some (ofGroups front, rest)
  else if quad then none
  else match rest with
    | ':' :: ':' :: rest =>
      let (back, _, rest) := readGroups (7 - front.length) true rest
      let gap := List.replicate (8 - front.length - back.length) 0
      some (ofGroups (front ++ gap ++ back), rest)
    | _ => none

/-- The IPv4 address that a whole text writes. -/
def quad? (cs : List Char) : Option Nat :=
  match readQuad cs with
  | some (value, []) => some value
  | _ => none

/-- The IPv6 address that a whole text writes. -/
def groups? (cs : List Char) : Option Nat :=
  match readSix cs with
  | some (value, []) => some value
  | _ => none

/-- The address that a whole text writes, in its family. -/
def literal? (cs : List Char) : Option (Family × Nat) :=
  match quad? cs with
  | some value => some (.v4, value)
  | none => (groups? cs).map (.v6, ·)

-- ============================================================= writing

/-- An IPv4 address as four decimal numbers. -/
def quadText (value : Nat) : String :=
  let byte (i : Nat) : String := toString (value / Word.size (8 * i) % 256)
  byte 3 ++ "." ++ byte 2 ++ "." ++ byte 1 ++ "." ++ byte 0

/-- The eight groups of an IPv6 address. -/
def groupsOf (value : Nat) : List Nat :=
  (List.range 8).map fun i => value / Word.size (16 * (7 - i)) % 65536

/-- A run of zero groups: where it starts, and how many there are. -/
structure Gap where
  start : Nat
  count : Nat

/-- The first of the longest runs of zero groups, given the run that ends here and the
longest one before. -/
def longestGap : (index : Nat) → (current best : Gap) → List Nat → Gap
  | _, _, best, [] => best
  | i, current, best, g :: rest =>
    if g = 0 then
      let current := if current.count = 0 then ⟨i, 1⟩ else ⟨current.start, current.count + 1⟩
      longestGap (i + 1) current (if best.count < current.count then current else best) rest
    else longestGap (i + 1) ⟨0, 0⟩ best rest

/-- A group without leading zeros. -/
def groupText (g : Nat) : String := String.ofList (Nat.toDigits 16 g)

/-- Groups separated by colons. -/
def joinGroups (groups : List Nat) : String := ":".intercalate (groups.map groupText)

/-- An IPv6 address with its longest run of zero groups left out. -/
def groupsText (value : Nat) : String :=
  let groups := groupsOf value
  let gap := longestGap 0 ⟨0, 0⟩ ⟨0, 0⟩ groups
  if 1 < gap.count then
    joinGroups (groups.take gap.start) ++ "::" ++ joinGroups (groups.drop (gap.start + gap.count))
  else joinGroups groups

/-- An address in the usual form of its family. -/
def literalText (family : Family) (value : Nat) : String :=
  match family with
  | .v4 => quadText value
  | .v6 => groupsText value

end Gatewatch.Net
