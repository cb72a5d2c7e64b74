/-
Blocks as sets of addresses.

A block holds a stretch of numbers whose length is a power of two and
whose start is a multiple of that length. So two blocks of one family
are nested or apart (`holds_base_of_length_le`), and whether they meet
shows at the base of the smaller one.

`Block.contains` asks about the base of its argument alone. It tells
whether the bases are nested that way (`contains_iff`), which is less
than whether the blocks meet: a block that is larger than its container
and starts before it goes unnoticed (`meets_iff_of_not_contains`).
-/
import Gatewatch.Net.Block

namespace Gatewatch.Net.Block

-- ========================================================== the holder

/-- What is left when the low bits are cleared tells the stretch that a
number is in. -/
theorem clear_eq_iff {family : Family} {base length value : Nat}
    (haligned : base % Word.size (family.width - length) = 0) :
    clear family value length = base
      ↔ base ≤ value ∧ value < base + Word.size (family.width - length) := by
  unfold clear
  have hpos := Word.size_pos (family.width - length)
  generalize Word.size (family.width - length) = size at haligned hpos ⊢
  constructor
  · intro h
    have hlt := Nat.mod_lt value hpos
    have hle := Nat.mod_le value size
    omega
  · rintro ⟨hle, hlt⟩
    have hmod : value % size = value - base := by
      calc value % size
          = (value - base + base) % size := by rw [Nat.sub_add_cancel hle]
        _ = (value - base) % size := by
            rw [Nat.add_mod, haligned, Nat.add_zero, Nat.mod_mod]
        _ = value - base := Nat.mod_eq_of_lt (by omega)
    omega

/-- A block contains another one when it is of its family and holds its
base. -/
theorem contains_iff (n b : Block) :
    n.contains b = true ↔ n.family = b.family ∧ n.Holds b.base := by
  unfold contains Holds size
  rw [Bool.and_eq_true, beq_iff_eq, beq_iff_eq, clear_eq_iff n.aligned]

/-- A block holds its base. -/
theorem holds_base (b : Block) : b.Holds b.base :=
  ⟨Nat.le_refl _, Nat.lt_add_of_pos_right (Word.size_pos _)⟩

-- ============================================================ two blocks

/-- Some address is in both blocks. -/
def Meets (b n : Block) : Prop :=
  b.family = n.family ∧ ∃ value, b.Holds value ∧ n.Holds value

/-- A block is one of several that make up another one. -/
def StrictlyInside (n b : Block) : Prop :=
  n.family = b.family ∧ b.length < n.length ∧ b.Holds n.base

/-- The longer the prefix, the smaller the block, by a power of two. -/
theorem size_dvd {b n : Block} (hfamily : b.family = n.family)
    (hle : b.length ≤ n.length) : n.size ∣ b.size := by
  unfold size
  rw [hfamily]
  exact Nat.pow_dvd_pow 2 (Nat.sub_le_sub_left hle _)

/-- Of two blocks that meet, the larger one holds the base of the
other. -/
theorem holds_base_of_length_le {b n : Block}
    (hfamily : b.family = n.family) (hle : b.length ≤ n.length)
    {value : Nat} (hb : b.Holds value) (hn : n.Holds value) :
    b.Holds n.base := by
  obtain ⟨hb₁, hb₂⟩ := hb
  obtain ⟨hn₁, hn₂⟩ := hn
  refine ⟨?_, Nat.lt_of_le_of_lt hn₁ hb₂⟩
  -- both bases are multiples of the smaller size
  obtain ⟨k, hk⟩ := Nat.dvd_of_mod_eq_zero n.aligned
  obtain ⟨m, hm⟩ := Nat.dvd_trans (size_dvd hfamily hle)
    (Nat.dvd_of_mod_eq_zero b.aligned)
  change n.base = n.size * k at hk
  refine Nat.le_of_not_lt fun hlt => ?_
  have hkm : k < m := by
    apply Nat.lt_of_mul_lt_mul_left (a := n.size)
    rw [← hk, ← hm]
    exact hlt
  have hstep : n.base + n.size ≤ b.base := by
    rw [hk, hm, ← Nat.mul_succ]
    exact Nat.mul_le_mul_left n.size hkm
  omega

/-- A block that another one does not contain meets it exactly when that
one is strictly inside. -/
theorem meets_iff_of_not_contains {b n : Block}
    (h : n.contains b = false) : b.Meets n ↔ n.StrictlyInside b := by
  constructor
  · rintro ⟨hfamily, value, hb, hn⟩
    have hlt : b.length < n.length := by
      refine Nat.lt_of_not_le fun hle => ?_
      have hbase := holds_base_of_length_le hfamily.symm hle hn hb
      have hcontains := (contains_iff n b).2 ⟨hfamily.symm, hbase⟩
      rw [h] at hcontains
      cases hcontains
    exact ⟨hfamily.symm, hlt,
      holds_base_of_length_le hfamily (Nat.le_of_lt hlt) hb hn⟩
  · rintro ⟨hfamily, -, hbase⟩
    exact ⟨hfamily.symm, n.base, hbase, n.holds_base⟩

end Gatewatch.Net.Block
