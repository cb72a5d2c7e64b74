/-
The calendar runs on day by day, without gaps and without repetition.

# Years

A year has 365 days and a leap year one more (`daysBeforeYear_succ`), so
every day lies in exactly one year. The year of a day is guessed from the
mean length of years, and the guess is off by one at most: 400 years have
146097 days, and the days before a year differ from that mean by less
than two days (`yearOf_spec`).

# Months

Within a year the months are lengths that follow one another: a day is
split off from their sum at one place only (`exists_split`,
`splitMonths_at`). So a date and its day number stand for each other
(`toDay_ofDay`, `ofDay_toDay`), and the number of a date lies among those
of its year (`year_spans`).
-/
import Gatewatch.Date.Civil
import Mathlib.Tactic.ByContra
import Mathlib.Tactic.IntervalCases

namespace Gatewatch.Date

-- ============================================================= years

/-- The days that a leap year has more than others. -/
def leapDay (year : Int) : Nat := if isLeap year then 1 else 0

theorem leapDay_le (year : Int) : leapDay year ≤ 1 := by
  unfold leapDay
  split <;> omega

theorem isLeap_iff (year : Int) :
    isLeap year = true ↔ year % 4 = 0 ∧ (year % 100 ≠ 0 ∨ year % 400 = 0) := by
  unfold isLeap
  simp

theorem daysBeforeYear_eq (year : Int) :
    daysBeforeYear year = 365 * (year - 1) + (year - 1) / 4
      - (year - 1) / 100 + (year - 1) / 400 := rfl

/-- One year has gone by when the next one begins. -/
theorem daysBeforeYear_succ (year : Int) :
    daysBeforeYear (year + 1) = daysBeforeYear year + 365 + leapDay year := by
  have hleap := isLeap_iff year
  rw [daysBeforeYear_eq, daysBeforeYear_eq]
  unfold leapDay
  by_cases h : isLeap year = true
  · rw [if_pos h]
    rw [hleap] at h
    omega
  · rw [if_neg h]
    rw [hleap] at h
    omega

/-- Later years begin later. -/
theorem daysBeforeYear_lt {a b : Int} (h : a < b) :
    daysBeforeYear a < daysBeforeYear b := by
  rw [daysBeforeYear_eq, daysBeforeYear_eq]
  omega

theorem daysBeforeYear_le {a b : Int} (h : a ≤ b) :
    daysBeforeYear a ≤ daysBeforeYear b := by
  rcases Int.lt_or_eq_of_le h with h | rfl
  · exact Int.le_of_lt (daysBeforeYear_lt h)
  · exact Int.le_refl _

namespace Civil

/-- A day lies in its year. -/
theorem yearOf_spec (n : Int) :
    daysBeforeYear (yearOf n) ≤ n ∧ n < daysBeforeYear (yearOf n + 1) := by
  unfold yearOf
  generalize hguess : n * 400 / 146097 + 1 = guess
  -- the guess is the year, or the one after it, or the one before it
  have hlow : daysBeforeYear (guess - 1) ≤ n := by
    rw [daysBeforeYear_eq]
    omega
  have hhigh : n < daysBeforeYear (guess + 2) := by
    rw [daysBeforeYear_eq]
    omega
  dsimp only
  split
  case isTrue h =>
    rw [Int.sub_add_cancel]
    exact ⟨hlow, h⟩
  case isFalse h =>
    split
    case isTrue hnext =>
      rw [Int.add_assoc]
      exact ⟨hnext, hhigh⟩
    case isFalse hnext => omega

/-- A day lies in one year only. -/
theorem yearOf_eq {n year : Int} (hlow : daysBeforeYear year ≤ n)
    (hhigh : n < daysBeforeYear (year + 1)) : yearOf n = year := by
  obtain ⟨hlow', hhigh'⟩ := yearOf_spec n
  by_contra hne
  rcases Int.lt_or_gt_of_ne hne with h | h
  · have := daysBeforeYear_le (a := yearOf n + 1) (b := year) (by omega)
    omega
  · have := daysBeforeYear_le (a := year + 1) (b := yearOf n) (by omega)
    omega

-- ============================================================ months

/-- The days of some lengths are split where a length has room for the
rest. -/
theorem exists_split {lengths : List Nat} {n : Nat}
    (h : n < daysOf lengths) :
    ∃ i length rest, lengths[i]? = some length ∧ rest < length
      ∧ n = daysOf (lengths.take i) + rest := by
  induction lengths generalizing n with
  | nil => exact absurd h (Nat.not_lt_zero n)
  | cons first lengths ih =>
      by_cases hfirst : n < first
      · exact ⟨0, first, n, rfl, hfirst, by simp [daysOf]⟩
      · obtain ⟨i, length, rest, hi, hrest, hn⟩ :=
          @ih (n - first) (by simp only [daysOf] at h; omega)
        refine ⟨i + 1, length, rest, hi, hrest, ?_⟩
        rw [List.take_succ_cons, daysOf]
        omega

/-- They are split there only. -/
theorem splitMonths_at {lengths : List Nat} {i length rest : Nat}
    (month : Nat) (hi : lengths[i]? = some length) (hrest : rest < length) :
    splitMonths month lengths (daysOf (lengths.take i) + rest)
      = (month + i, rest + 1) := by
  induction lengths generalizing i month with
  | nil => cases hi
  | cons first lengths ih =>
      cases i with
      | zero =>
          injection hi with hi
          rw [List.take_zero, daysOf, Nat.zero_add, splitMonths,
            if_pos (hi ▸ hrest)]
          rfl
      | succ i =>
          have hskip : ¬ daysOf ((first :: lengths).take (i + 1)) + rest
              < first := by
            rw [List.take_succ_cons, daysOf]
            omega
          have hleft : daysOf ((first :: lengths).take (i + 1)) + rest - first
              = daysOf (lengths.take i) + rest := by
            rw [List.take_succ_cons, daysOf]
            omega
          rw [splitMonths, if_neg hskip, hleft, ih (month + 1) hi]
          simp only [Prod.mk.injEq, and_true]
          omega

/-- The months of a year make up the year. -/
theorem daysOf_monthLengths (year : Int) :
    daysOf (monthLengths year) = 365 + leapDay year := by
  unfold monthLengths leapDay
  cases isLeap year <;> rfl

/-- Up to a month the years are alike but for the leap day behind the
second one. -/
theorem daysOf_take_monthLengths (year : Int) {i : Nat} (hi : i < 12) :
    daysOf ((monthLengths year).take i)
      = daysOf ((monthLengths 1).take i)
        + if 1 < i then leapDay year else 0 := by
  unfold monthLengths leapDay
  cases isLeap year <;> interval_cases i <;> rfl

-- ============================================================= dates

/-- Whether the calendar has a date, however far its year lies. -/
def IsDay (d : Civil) : Prop :=
  1 ≤ d.month ∧ 1 ≤ d.day
    ∧ ∃ length, (monthLengths d.year)[d.month - 1]? = some length
      ∧ d.day ≤ length

theorem length_monthLengths (year : Int) : (monthLengths year).length = 12 :=
  rfl

theorem IsDay.month_le {d : Civil} (h : d.IsDay) : d.month ≤ 12 := by
  obtain ⟨hmonth, -, length, hlength, -⟩ := h
  obtain ⟨hlt, -⟩ := List.getElem?_eq_some_iff.1 hlength
  rw [length_monthLengths] at hlt
  omega

/-- Dates can be given for the days of a span of years. -/
theorem valid_iff (d : Civil) :
    d.Valid ↔ d.IsDay ∧ minYear ≤ d.year ∧ d.year ≤ maxYear := by
  constructor
  · rintro ⟨hlow, hhigh, hday, hlast, hyear⟩
    have hlt : d.month - 1 < (monthLengths d.year).length := by
      rw [length_monthLengths]
      omega
    rw [List.getElem?_eq_getElem hlt, Option.getD_some] at hlast
    exact ⟨⟨hlow, hday, _, List.getElem?_eq_getElem hlt, hlast⟩, hyear⟩
  · rintro ⟨hd, hyear⟩
    have hhigh := hd.month_le
    obtain ⟨hlow, hday, length, hlength, hlast⟩ := hd
    refine ⟨hlow, hhigh, hday, ?_, hyear⟩
    rwa [hlength, Option.getD_some]

/-- A date lies as far into its year as the months before it are long, and
its own days. -/
theorem IsDay.split {d : Civil} (h : d.IsDay) :
    ∃ i length rest, (monthLengths d.year)[i]? = some length ∧ rest < length
      ∧ d = ⟨d.year, 1 + i, rest + 1⟩
      ∧ d.toDay + epochDay
        = daysBeforeYear d.year
          + (daysOf ((monthLengths d.year).take i) + rest : Nat) := by
  obtain ⟨hmonth, hday, length, hlength, hlast⟩ := h
  refine ⟨d.month - 1, length, d.day - 1, hlength, by omega, ?_, ?_⟩
  · obtain ⟨year, month, day⟩ := d
    simp only [Civil.mk.injEq, true_and] at *
    omega
  · unfold toDay
    omega

/-- The days before a month are fewer than those of the year, whatever day
of the month it is. -/
theorem daysOf_take_lt {lengths : List Nat} {i length rest : Nat}
    (hi : lengths[i]? = some length) (hrest : rest < length) :
    daysOf (lengths.take i) + rest < daysOf lengths := by
  induction lengths generalizing i with
  | nil => cases hi
  | cons first lengths ih =>
      cases i with
      | zero =>
          injection hi with hi
          rw [List.take_zero]
          simp only [daysOf]
          omega
      | succ i =>
          have := ih hi
          rw [List.take_succ_cons]
          simp only [daysOf]
          omega

/-- The days of a year are those between its begin and the next. -/
theorem IsDay.year_spans {d : Civil} (h : d.IsDay) :
    daysBeforeYear d.year ≤ d.toDay + epochDay
      ∧ d.toDay + epochDay < daysBeforeYear (d.year + 1) := by
  obtain ⟨i, length, rest, hi, hrest, -, hday⟩ := h.split
  have hlt := daysOf_take_lt hi hrest
  rw [daysOf_monthLengths] at hlt
  rw [hday, daysBeforeYear_succ]
  omega

/-- A day number gives a date, and the date has that number. -/
theorem ofDay_spec (day : Int) :
    (ofDay day).IsDay ∧ (ofDay day).toDay = day
      ∧ (ofDay day).year = yearOf (day + epochDay) := by
  obtain ⟨hlow, hhigh⟩ := yearOf_spec (day + epochDay)
  generalize hyear : yearOf (day + epochDay) = year at hlow hhigh
  rw [daysBeforeYear_succ] at hhigh
  have hlt : (day + epochDay - daysBeforeYear year).toNat
      < daysOf (monthLengths year) := by
    rw [daysOf_monthLengths]
    omega
  obtain ⟨i, length, rest, hi, hrest, hn⟩ := exists_split hlt
  have hdate : ofDay day = ⟨year, 1 + i, rest + 1⟩ := by
    unfold ofDay
    simp only [hyear, hn, splitMonths_at 1 hi hrest]
  have hmonth : 1 + i - 1 = i := Nat.add_sub_cancel_left 1 i
  rw [hdate]
  refine ⟨⟨Nat.le_add_right 1 i, Nat.le_add_left 1 rest, length, ?_, hrest⟩,
    ?_, rfl⟩
  · simp only [hmonth, hi]
  · unfold toDay
    simp only [hmonth]
    omega

/-- The date with the number of a date is that date. -/
theorem ofDay_toDay {d : Civil} (h : d.IsDay) : ofDay d.toDay = d := by
  obtain ⟨hlow, hhigh⟩ := h.year_spans
  obtain ⟨i, length, rest, hi, hrest, hd, hday⟩ := h.split
  have hleft : (d.toDay + epochDay - daysBeforeYear d.year).toNat
      = daysOf ((monthLengths d.year).take i) + rest := by
    omega
  unfold ofDay
  simp only [yearOf_eq hlow hhigh, hleft, splitMonths_at 1 hi hrest]
  exact hd.symm

/-- A date comes up again 365 days later, or 366. -/
theorem toDay_next_year {year : Int} {month day : Nat}
    (h : IsDay ⟨year + 1, month, day⟩) :
    toDay ⟨year + 1, month, day⟩ ≤ toDay ⟨year, month, day⟩ + 366 := by
  have hhigh := h.month_le
  have hlow := h.1
  have hthis := daysOf_take_monthLengths year (i := month - 1)
    (by simp only at *; omega)
  have hnext := daysOf_take_monthLengths (year + 1) (i := month - 1)
    (by simp only at *; omega)
  have hleap := leapDay_le year
  have hleap' := leapDay_le (year + 1)
  unfold toDay
  simp only
  rw [hthis, hnext, daysBeforeYear_succ]
  split <;> omega

/-- A date that some year has is one of every year, unless it is the leap
day. -/
theorem IsDay.of_year {year : Int} {month day : Nat}
    (h : IsDay ⟨year, month, day⟩) (hleap : ¬ (month = 2 ∧ day = 29))
    (other : Int) : IsDay ⟨other, month, day⟩ := by
  have hhigh := h.month_le
  obtain ⟨hlow, hday, length, hlength, hlast⟩ := h
  refine ⟨hlow, hday, ?_⟩
  simp only at hhigh hlow hlength hlast ⊢
  by_cases hmonth : month = 2
  · subst hmonth
    have hshort : day ≤ 28 := by
      have : length ≤ 29 := by
        unfold monthLengths at hlength
        cases hy : isLeap year <;> simp [hy] at hlength <;> omega
      omega
    refine ⟨if isLeap other then 29 else 28, rfl, ?_⟩
    split <;> omega
  · refine ⟨length, ?_, hlast⟩
    rw [← hlength]
    unfold monthLengths
    interval_cases month
    all_goals first | rfl | exact absurd rfl hmonth

end Civil

end Gatewatch.Date
