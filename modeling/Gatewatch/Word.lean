/-
Words: whole numbers of a fixed number of bits. Unsigned ones run from zero up to the size of
the word, signed ones from minus half of that.
-/

namespace Gatewatch.Word

/-- How many numbers a word of some bits has room for. -/
def size (bits : Nat) : Nat := Nat.pow 2 bits

theorem size_zero : size 0 = 1 := rfl

theorem size_pos (bits : Nat) : 0 < size bits := Nat.pow_pos (by decide)

theorem size_succ (bits : Nat) : size (bits + 1) = 2 * size bits :=
  Nat.pow_succ'

/-- The signed word that is left of a number when it is cut to some bits. -/
def wrap (bits : Nat) (n : Int) : Int := n.bmod (size bits)

/-- A number that a signed word of some bits has room for: one bit tells the sign. -/
def Fits (bits : Nat) (n : Int) : Prop := -(size (bits - 1) : Int) ≤ n ∧ n < size (bits - 1)

instance (bits : Nat) (n : Int) : Decidable (Fits bits n) := inferInstanceAs (Decidable (_ ∧ _))

/-- Nothing is cut from a number that there is room for. -/
theorem wrap_of_fits {bits : Nat} {n : Int} (hbits : 0 < bits) (h : Fits bits n) :
    wrap bits n = n := by
  obtain ⟨hlow, hhigh⟩ := h
  have hsize : size bits = 2 * size (bits - 1) := by
    rw [← size_succ, Nat.sub_add_cancel hbits]
  exact Int.bmod_eq_of_le (by omega) (by omega)

end Gatewatch.Word
