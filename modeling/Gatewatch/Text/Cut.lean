/-
Cutting a text at positions that are counted in bytes of its UTF-8 form. A position inside
a character counts as the one behind it, so every cut falls between two characters.
-/

namespace Gatewatch.Text

/-- The number of bytes that a run of characters takes. -/
def width : List Char → Nat
  | [] => 0
  | c :: cs => c.utf8Size + width cs

/-- The characters that start before byte `n`. -/
def upTo : Nat → List Char → List Char
  | _, [] => []
  | 0, _ => []
  | n + 1, c :: cs => c :: upTo (n + 1 - c.utf8Size) cs

/-- The characters that start at byte `n` or later. -/
def beyond : Nat → List Char → List Char
  | _, [] => []
  | 0, cs => cs
  | n + 1, c :: cs => beyond (n + 1 - c.utf8Size) cs

/-- The part of a text between two byte positions. -/
def between (text : List Char) (start stop : Nat) : List Char :=
  upTo (stop - start) (beyond start text)

@[simp] theorem width_nil : width [] = 0 := rfl

@[simp] theorem width_cons (c : Char) (cs : List Char) :
    width (c :: cs) = c.utf8Size + width cs := rfl

@[simp] theorem width_append (a b : List Char) : width (a ++ b) = width a + width b := by
  induction a with
  | nil => simp
  | cons c cs ih => simp [ih, Nat.add_assoc]

theorem upTo_append_beyond (n : Nat) (cs : List Char) : upTo n cs ++ beyond n cs = cs := by
  induction cs generalizing n with
  | nil => cases n <;> rfl
  | cons c cs ih => cases n with
    | zero => rfl
    | succ n => simp [upTo, beyond, ih]

/-- Cutting where the first of two parts ends gives the parts back. -/
theorem upTo_width_append (a b : List Char) : upTo (width a) (a ++ b) = a := by
  induction a with
  | nil => cases b <;> rfl
  | cons c cs ih =>
    have pos : 0 < c.utf8Size := c.utf8Size_pos
    obtain ⟨k, hk⟩ : ∃ k, width (c :: cs) = k + 1 := ⟨c.utf8Size + width cs - 1, by simp; omega⟩
    have rest : k + 1 - c.utf8Size = width cs := by simp at hk; omega
    rw [hk, List.cons_append, upTo, rest, ih]

theorem beyond_width_append (a b : List Char) : beyond (width a) (a ++ b) = b := by
  induction a with
  | nil => cases b <;> rfl
  | cons c cs ih =>
    have pos : 0 < c.utf8Size := c.utf8Size_pos
    obtain ⟨k, hk⟩ : ∃ k, width (c :: cs) = k + 1 := ⟨c.utf8Size + width cs - 1, by simp; omega⟩
    have rest : k + 1 - c.utf8Size = width cs := by simp at hk; omega
    rw [hk, List.cons_append, beyond, rest, ih]

end Gatewatch.Text
