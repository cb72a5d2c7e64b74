/-
Whole numbers as they are written and read back: what a number is
printed as is read as that number or, when it is not within the bounds of
the word, not at all.

No number is printed with a plus, and only a negative one with a minus,
so the sign that is looked for first is found exactly where it was put.
-/
import Gatewatch.Proofs.Json.Numeral
import Gatewatch.Proofs.Net.Token
import Gatewatch.Text.Numeral
import Mathlib.Algebra.Group.Nat.Defs

namespace Gatewatch.Text

-- ============================================================= digits

/-- A digit is one byte wide. -/
theorem utf8Size_of_isDigit {c : Char} (h : c.isDigit = true) :
    c.utf8Size = 1 := by
  unfold Char.isDigit at h
  simp only [Bool.and_eq_true, decide_eq_true_eq] at h
  exact Char.utf8Size_eq_one_iff.2 (UInt32.le_trans h.2 (by decide))

/-- There are ten digits. -/
theorem mem_of_isDigit {c : Char} (h : c.isDigit = true) :
    c ∈ "0123456789".toList := by
  have hall : ∀ n < 58, 48 ≤ n → Char.ofNat n ∈ "0123456789".toList := by
    decide
  unfold Char.isDigit at h
  simp only [Bool.and_eq_true, decide_eq_true_eq] at h
  have hmem := hall c.toNat (Nat.lt_succ_of_le h.2) h.1
  rwa [Char.ofNat_toNat] at hmem

/-- The digits of a number are read as it. -/
theorem digits?_toDigits (n : Nat) :
    digits? (Nat.toDigits 10 n) = some n := by
  have hvalue : (Nat.toDigits 10 n).foldl
      (fun m c => 10 * m + (c.toNat - 48)) 0 = n :=
    Nat.ofDigitChars_ten_toDigits
  have hsome : (Nat.toDigits 10 n).isEmpty = false :=
    List.isEmpty_eq_false_iff.2 Nat.toDigits_ne_nil
  have hdigits : (Nat.toDigits 10 n).all Char.isDigit = true :=
    List.all_eq_true.2 (Json.isDigit_toDigits n)
  unfold digits?
  rw [hsome, hdigits, hvalue]
  rfl

/-- No sign stands in front of the digits of a number. -/
theorem head_toDigits_ne {c : Char} (hc : c.isDigit = false) (n : Nat)
    (rest : List Char) : Nat.toDigits 10 n ≠ c :: rest := by
  intro h
  have hdigit := Json.isDigit_toDigits n c (h ▸ List.mem_cons_self)
  rw [hc] at hdigit
  cases hdigit

/-- What is read as digits is made of digits. -/
theorem isDigit_of_digits? {cs : List Char} {n : Nat}
    (h : digits? cs = some n) : ∀ c ∈ cs, c.isDigit = true := by
  unfold digits? at h
  split at h
  case isTrue => cases h
  case isFalse hdigits =>
    rw [Bool.not_eq_true, Bool.or_eq_false_iff, Bool.not_eq_false'] at hdigits
    exact List.all_eq_true.1 hdigits.2

/-- Digits write a number below the power of ten with a zero for each. -/
theorem digits?_lt {cs : List Char} {n : Nat} (h : digits? cs = some n) :
    n < 10 ^ cs.length := by
  have hall : ∀ d ∈ cs.map (·.toNat - 48), d < 10 := by
    intro d hd
    obtain ⟨c, hc, rfl⟩ := List.mem_map.1 hd
    have hdigit := isDigit_of_digits? h c hc
    unfold Char.isDigit at hdigit
    simp only [Bool.and_eq_true, decide_eq_true_eq] at hdigit
    have hle : c.toNat ≤ 57 := hdigit.2
    omega
  have hlt := Net.ofDigits_lt hall
  unfold Net.ofDigits at hlt
  rw [List.foldl_map, List.length_map] at hlt
  unfold digits? at h
  split at h
  case isTrue => cases h
  case isFalse => rwa [← Option.some.inj h]

-- ============================================================= numbers

/-- Digits are read as an unsigned number below a bound. -/
theorem unsigned?_of_digits? {bound n : Nat} {cs : List Char}
    (h : digits? cs = some n) (hn : n < bound) :
    unsigned? bound cs = some n := by
  have hdigit := isDigit_of_digits? h
  unfold unsigned?
  split
  case h_1 rest => exact absurd (hdigit '+' List.mem_cons_self) (by decide)
  case h_2 =>
    dsimp only
    rw [h, Option.filter_some, if_pos (decide_eq_true hn)]

/-- They are read as a signed number too, when it has room for them. -/
theorem signed?_of_digits? {bits n : Nat} {cs : List Char}
    (h : digits? cs = some n) (hn : n < Word.size (bits - 1)) :
    signed? bits cs = some (n : Int) := by
  have hdigit := isDigit_of_digits? h
  unfold signed?
  split
  case h_1 rest => exact absurd (hdigit '-' List.mem_cons_self) (by decide)
  case h_2 =>
    rw [unsigned?_of_digits? h hn]
    rfl

/-- A number that is printed is read back below a bound. -/
theorem unsigned?_toDigits (bound n : Nat) :
    unsigned? bound (Nat.toDigits 10 n) = (some n).filter (· < bound) := by
  unfold unsigned?
  split
  case h_1 rest h => exact absurd h (head_toDigits_ne rfl n rest)
  case h_2 => exact congrArg (Option.filter _) (digits?_toDigits n)

/-- A natural number is not read as another one. -/
theorem eq_of_unsigned?_toString {bound n m : Nat}
    (h : unsigned? bound (toString n).toList = some m) : m = n := by
  have htext : (toString n).toList = Nat.toDigits 10 n := Nat.toList_repr
  rw [htext, unsigned?_toDigits] at h
  exact (Option.some.inj (Option.filter_eq_some_iff.1 h).1).symm

/-- An integer is not read as another one. -/
theorem eq_of_signed?_toString {bits : Nat} {n m : Int}
    (h : signed? bits (toString n).toList = some m) : m = n := by
  cases n with
  | ofNat n =>
      have htext : (toString (Int.ofNat n)).toList = Nat.toDigits 10 n :=
        Nat.toList_repr
      rw [htext] at h
      unfold signed? at h
      split at h
      case h_1 rest hrest => exact absurd hrest (head_toDigits_ne rfl n rest)
      case h_2 =>
        rw [unsigned?_toDigits] at h
        cases hk : (some n).filter (· < Word.size (bits - 1)) with
        | none => rw [hk] at h; cases h
        | some k =>
            rw [hk] at h
            injection h with h
            have hkn := (Option.filter_eq_some_iff.1 hk).1
            injection hkn with hkn
            rw [← h, ← hkn]
            rfl
  | negSucc n =>
      have htext : (toString (Int.negSucc n)).toList
          = '-' :: Nat.toDigits 10 (n + 1) := by
        show ("-" ++ (n + 1).repr).toList = _
        rw [String.toList_append, Nat.toList_repr]
        rfl
      rw [htext] at h
      unfold signed? at h
      split at h
      case h_2 hsign => exact absurd rfl (hsign _)
      case h_1 rest hrest =>
        injection hrest with _ hrest
        rw [← hrest, digits?_toDigits] at h
        cases hk : (some (n + 1)).filter (· ≤ Word.size (bits - 1)) with
        | none => rw [hk] at h; cases h
        | some k =>
            rw [hk] at h
            injection h with h
            have hkn := (Option.filter_eq_some_iff.1 hk).1
            injection hkn with hkn
            rw [← h, ← hkn]
            rfl

end Gatewatch.Text
