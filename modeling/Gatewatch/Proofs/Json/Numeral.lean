/-
Whole numbers of a document: what the writer prints, the reader takes
back, as long as the number fits 64 bits.

The digits of a number are gathered one by one into a significand that
never passes the number itself (`takeDigits_append`), so a number below
2^64 is gathered whole. It has no leading zero (`toDigits_eq_cons`), and
what stands behind an item of an array, a comma or a bracket, neither
continues it nor makes it a double (`Ends`).
-/
import Gatewatch.Json.Reader
import Gatewatch.Json.Writer

namespace Gatewatch.Json

/-- What may stand behind a value: nothing, a comma or the end of an
array. -/
def Ends (rest : List Char) : Prop :=
  ∀ c ∈ rest.head?, c = ',' ∨ c = ']'

theorem ends_nil : Ends [] := by
  intro c hc
  cases hc

theorem ends_comma (rest : List Char) : Ends (',' :: rest) := by
  intro c hc
  injection hc with hc
  exact Or.inl hc.symm

theorem ends_bracket (rest : List Char) : Ends (']' :: rest) := by
  intro c hc
  injection hc with hc
  exact Or.inr hc.symm

/-- No digit stands behind a value. -/
theorem Ends.not_digit {rest : List Char} (h : Ends rest) :
    ∀ c ∈ rest.head?, c.isDigit = false := by
  intro c hc
  rcases h c hc with rfl | rfl <;> rfl

-- ============================================================= digits

/-- More digits never make a number smaller. -/
theorem le_ofDigitChars (ds : List Char) (start : Nat) :
    start ≤ Nat.ofDigitChars 10 ds start := by
  rw [Nat.ofDigitChars_eq_ofDigitChars_zero]
  have hpos : 0 < 10 ^ ds.length := Nat.pow_pos (by decide)
  exact Nat.le_add_right_of_le (Nat.le_mul_of_pos_left start hpos)

/-- Digits that make a number below 2^64 are all taken. -/
theorem takeDigits_append {ds rest : List Char} {start count : Nat}
    (hdigits : ∀ c ∈ ds, c.isDigit = true)
    (hsize : Nat.ofDigitChars 10 ds start < Word.size 64)
    (hrest : ∀ c ∈ rest.head?, c.isDigit = false) :
    takeDigits start count (ds ++ rest)
      = (Nat.ofDigitChars 10 ds start, count + ds.length, rest) := by
  induction ds generalizing start count with
  | nil =>
      cases rest with
      | nil => rfl
      | cons c rest =>
          have hc := hrest c rfl
          show takeDigits start count (c :: rest) = _
          rw [takeDigits, if_neg (by rw [hc]; decide)]
          rfl
  | cons d ds ih =>
      have hnext : 10 * start + (d.toNat - '0'.toNat)
          = start * 10 + (d.toNat - 48) := by
        rw [Nat.mul_comm]
        rfl
      rw [Nat.ofDigitChars_cons, hnext] at hsize ⊢
      have hfits := Nat.lt_of_le_of_lt (le_ofDigitChars ds _) hsize
      rw [List.cons_append, takeDigits,
        if_pos (hdigits d List.mem_cons_self)]
      show (if start * 10 + (d.toNat - 48) < Word.size 64 then
        takeDigits (start * 10 + (d.toNat - 48)) (count + 1) (ds ++ rest)
        else _) = _
      rw [if_pos hfits,
        ih (fun c hc => hdigits c (List.mem_cons_of_mem d hc)) hsize,
        List.length_cons, Nat.add_assoc, Nat.add_comm 1]

/-- The digits of a number. -/
theorem isDigit_toDigits (n : Nat) :
    ∀ c ∈ Nat.toDigits 10 n, c.isDigit = true :=
  fun _ hc => Nat.isDigit_of_mem_toDigits (by decide) (by decide) hc

/-- A number below 2^64 is gathered whole. -/
theorem takeDigits_toDigits {n : Nat} (hn : n < Word.size 64)
    {rest : List Char} (hrest : Ends rest) :
    takeDigits 0 0 (Nat.toDigits 10 n ++ rest)
      = (n, (Nat.toDigits 10 n).length, rest) := by
  have hvalue : Nat.ofDigitChars 10 (Nat.toDigits 10 n) 0 = n :=
    Nat.ofDigitChars_ten_toDigits
  rw [takeDigits_append (isDigit_toDigits n) (hvalue.symm ▸ hn)
    hrest.not_digit, hvalue, Nat.zero_add]

/-- No digit is left to count behind a number. -/
theorem countDigits_of_ends {rest : List Char} (hrest : Ends rest) :
    countDigits rest = (0, rest) := by
  unfold countDigits
  cases rest with
  | nil => rfl
  | cons c rest =>
      have hc := hrest.not_digit c rfl
      rw [List.takeWhile_cons_of_neg (by rw [hc]; decide),
        List.dropWhile_cons_of_neg (by rw [hc]; decide)]
      rfl

/-- A number starts with a digit, which is a zero only when the number
is. -/
theorem toDigits_eq_cons (n : Nat) :
    ∃ d ds, Nat.toDigits 10 n = d :: ds ∧ (d = '0' → n = 0) := by
  induction n using Nat.strongRecOn with
  | ind n ih =>
      by_cases hn : n < 10
      · refine ⟨n.digitChar, [], Nat.toDigits_of_lt_base hn, ?_⟩
        exact Nat.digitChar_eq_zero.1
      · have hle := Nat.le_of_not_lt hn
        obtain ⟨d, ds, hds, hzero⟩ :=
          ih (n / 10) (Nat.div_lt_self (by omega) (by decide))
        refine ⟨d, ds ++ [(n % 10).digitChar], ?_, ?_⟩
        · rw [Nat.toDigits_of_base_le (by decide) hle, hds]
          rfl
        · intro hd
          have := hzero hd
          omega

/-- No digit follows a leading zero. -/
theorem no_leading_zero (n : Nat) {rest : List Char} (hrest : Ends rest) :
    ((Nat.toDigits 10 n ++ rest).head? == some '0'
      && decide (1 < (countDigits (Nat.toDigits 10 n ++ rest)).1))
      = false := by
  obtain ⟨d, ds, hds, hzero⟩ := toDigits_eq_cons n
  by_cases hd : d = '0'
  · rw [hzero hd, Nat.toDigits_zero]
    have hone : (countDigits ('0' :: rest)).1 = 1 := by
      have hnone := congrArg Prod.fst (countDigits_of_ends hrest)
      unfold countDigits at hnone ⊢
      rw [List.takeWhile_cons_of_pos (by decide), List.length_cons]
      exact congrArg (· + 1) hnone
    rw [List.singleton_append, hone]
    rfl
  · rw [hds]
    simp [hd]

-- ============================================================ numbers

/-- What is left to decide when the digits are gathered: the sign. -/
theorem readNumber_toDigits (negative : Bool) {n : Nat}
    (hn : n < Word.size 64) {rest : List Char} (hrest : Ends rest) :
    readNumber negative (Nat.toDigits 10 n ++ rest)
      = if !negative then some (.int n, rest)
        else if 0 < n && n ≤ Word.size 63 then some (.int (-n), rest)
        else some (.float (-n.toUInt64.toFloat).toBits, rest) := by
  unfold readNumber
  rw [takeDigits_toDigits hn hrest, no_leading_zero n hrest]
  have hpos : 0 < (Nat.toDigits 10 n).length := Nat.length_toDigits_pos
  have hguard : (guard (0 < (Nat.toDigits 10 n).length) : Option Unit)
      = some () := if_pos hpos
  dsimp only
  rw [hguard, countDigits_of_ends hrest]
  cases rest with
  | nil => rfl
  | cons c rest => rcases hrest c rfl with rfl | rfl <;> rfl

end Gatewatch.Json
