/-
Network blocks. A block is a family, a base address and the number of leading bits that all
its addresses share; the other bits of the base are zero. A single host is a block whose
length is the width of its family.

IPv4 addresses have a second form inside IPv6, under ninety-six leading bits of which only
the last sixteen are ones. No block takes that form: `Block.covering` builds the IPv4 block
in its place, so two blocks are equal exactly when they hold the same addresses.
-/
import Gatewatch.Word

namespace Gatewatch.Net

/-- The two families of addresses. -/
inductive Family where
  | v4
  | v6
deriving DecidableEq, Repr

/-- The number of bits of an address. -/
def Family.width : Family → Nat
  | v4 => 32
  | v6 => 128

/-- The leading ninety-six bits under which IPv6 holds the IPv4 addresses. -/
def mappedLead : Nat := 0xffff

/-- Whether an IPv6 address stands for an IPv4 address. -/
def isMapped (value : Nat) : Bool := value / Word.size 32 == mappedLead

/-- The addresses that share the first `length` bits of `base`. -/
structure Block where
  family : Family
  base : Nat
  length : Nat
  length_le : length ≤ family.width
  base_lt : base < Word.size family.width
  aligned : base % Word.size (family.width - length) = 0
  unmapped : family = .v6 → isMapped base = false
deriving DecidableEq

namespace Block

/-- The value with all but its first `length` bits cleared. -/
def clear (family : Family) (value length : Nat) : Nat :=
  value - value % Word.size (family.width - length)

/-- Whether the block is a single address. -/
def isHost (b : Block) : Bool := b.length == b.family.width

/-- The number of addresses in the block. -/
def size (b : Block) : Nat := Word.size (b.family.width - b.length)

/-- The addresses of the block, as numbers of its family. -/
def Holds (b : Block) (value : Nat) : Prop := b.base ≤ value ∧ value < b.base + b.size

theorem clear_le (family : Family) (value length : Nat) : clear family value length ≤ value :=
  Nat.sub_le _ _

theorem clear_mod (family : Family) (value length : Nat) :
    clear family value length % Word.size (family.width - length) = 0 := by
  unfold clear
  have h := Nat.div_add_mod value (Word.size (family.width - length))
  have : value - value % Word.size (family.width - length)
      = Word.size (family.width - length) * (value / Word.size (family.width - length)) := by omega
  rw [this, Nat.mul_mod_right]

/-- The block of a given length around an address, unless the number is too large, the
length is, or the base would stand for an IPv4 address. -/
def covering? (family : Family) (value length : Nat) : Option Block :=
  if h : length ≤ family.width ∧ value < Word.size family.width
      ∧ (family = .v6 → isMapped (clear family value length) = false) then
    some {
      family, length
      base := clear family value length
      length_le := h.1
      base_lt := Nat.lt_of_le_of_lt (clear_le _ _ _) h.2.1
      aligned := clear_mod _ _ _
      unmapped := h.2.2 }
  else none

/-- The block around an address as written: an IPv6 address that stands for an IPv4 address
gives the IPv4 block when at least the ninety-six leading bits are fixed. -/
def written? (family : Family) (value length : Nat) : Option Block :=
  match family with
  | .v4 => covering? .v4 value length
  | .v6 =>
    if isMapped value && 96 ≤ length then
      if length ≤ 128 then covering? .v4 (value % Word.size 32) (length - 96) else none
    else covering? .v6 value length

/-- The block of a single address. -/
def host? (family : Family) (value : Nat) : Option Block :=
  written? family value family.width

/-- Whether the base of `other` lies in the block. -/
def contains (b other : Block) : Bool :=
  b.family == other.family && clear b.family other.base b.length == b.base

end Block

end Gatewatch.Net
