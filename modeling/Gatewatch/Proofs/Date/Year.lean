/-
What becomes of a year that is written.

A year is written with four digits, or with two that stand for a year
around the turn of the century (`Fields.Dated`); both are read for what
they are (`year?_of_dated`). From 2000 on the year is kept: the fields
stand for the one instant at which clocks show the date and the time,
whenever they are read. A year before 2000 is taken for no year at all,
and the fields are placed as if they had none (`time?_of_old_year`).
-/
import Gatewatch.Proofs.Date.Clocks
import Gatewatch.Proofs.Text.Numeral

namespace Gatewatch.Date

namespace Fields

/-- The year that fields carry: four digits of it, or its last two, of
which those from 69 on are of the last century. -/
inductive Dated (f : Fields) : Int → Prop
  | long {text : List Char} {n : Nat} (hyear : f.year = some text)
    (hlength : text.length = 4) (hdigits : Text.digits? text = some n) :
    Dated f n
  | short {text : List Char} {n : Nat} (hyear : f.year = none)
    (hshort : f.shortYear = some text) (hlength : text.length = 2)
    (hdigits : Text.digits? text = some n) :
    Dated f (if n < 69 then 2000 + n else 1900 + n)

/-- A year is read as it is written. -/
theorem year?_of_dated {f : Fields} {year : Int} (h : f.Dated year) :
    f.year? = some (some year) ∧ 0 ≤ year ∧ year < 10000 := by
  unfold year?
  cases h with
  | @long text n hyear hlength hdigits =>
      have hn := Text.digits?_lt hdigits
      rw [hlength] at hn
      have hread : Text.signed? 32 text = some (n : Int) :=
        Text.signed?_of_digits? hdigits (Nat.lt_trans hn (by decide))
      rw [hyear]
      exact ⟨congrArg some hread, by omega, by omega⟩
  | @short text n hyear hshort hlength hdigits =>
      have hn := Text.digits?_lt hdigits
      rw [hlength] at hn
      have hread : Text.signed? 32 text = some (n : Int) :=
        Text.signed?_of_digits? hdigits (Nat.lt_trans hn (by decide))
      rw [hyear, hshort]
      refine ⟨?_, by omega, by omega⟩
      dsimp only
      rw [hread]
      simp

/-- The fields without their year. -/
def yearless (f : Fields) : Fields := { f with year := none, shortYear := none }

/-- A year before 2000 makes no difference. -/
theorem time?_of_old_year {f : Fields} {year : Int}
    (hyear : f.year? = some (some year)) (hold : year < 2000)
    (offset now : Int) : f.time? offset now = f.yearless.time? offset now := by
  have hdropped : (some year).filter (2000 ≤ ·) = none := by
    rw [Option.filter_some, if_neg]
    simpa using hold
  have hclock : f.yearless.clock? = f.clock? := rfl
  have hzone : f.yearless.zone? offset = f.zone? offset := rfl
  have hmonth : f.yearless.month? = f.month? := rfl
  have hday : f.yearless.day? = f.day? := rfl
  have hnone : f.yearless.year? = some none := rfl
  unfold time?
  rw [hclock, hzone, hmonth, hday, hyear, hnone]
  cases f.clock? <;> cases f.zone? offset
  case some.some clock zone =>
    dsimp only
    rw [hdropped]
    rfl
  all_goals rfl

end Fields

/-- A year from 2000 on is kept: with a month, a day and a time the fields
stand for the instant at which clocks show just these, whenever they are
read. An older year is taken for none. -/
theorem written_year_is_kept {f : Fields} {offset zone year clock : Int}
    {month day : Nat} (hyear : f.Dated year)
    (hmonth : f.month?.value = some (some month)) (hday : f.day? = some day)
    (hdate : Civil.IsDay ⟨year, month, day⟩)
    (hzone : f.zone? offset = some zone) (hclock : f.clock? = some clock) :
    (2000 ≤ year → ∃ ts,
      (∀ t, dateAt zone t = ⟨year, month, day⟩ ∧ clockAt zone t = clock
        ↔ t = ts)
      ∧ ∀ now, InYears 1970 9999 now → (f.time? offset now).value = some ts)
    ∧ (year < 2000 →
      ∀ now, f.time? offset now = f.yearless.time? offset now) := by
  obtain ⟨hread, hlow, hhigh⟩ := Fields.year?_of_dated hyear
  refine ⟨fun hnew => ?_, fun hold now =>
    Fields.time?_of_old_year hread hold offset now⟩
  have hvalid : Civil.Valid ⟨year, month, day⟩ := by
    refine (Civil.valid_iff _).2 ⟨hdate, ?_⟩
    unfold minYear maxYear
    dsimp only
    omega
  refine ⟨instant zone ⟨year, month, day⟩ clock,
    fun t => shown_iff hdate (Fields.clock?_bounds hclock), fun now hnow => ?_⟩
  unfold Fields.time?
  simp only [hclock, hzone, hread, Noted.value_bind, hmonth, hday,
    localDate?_eq hnow, Option.filter_some, hnew, decide_true, if_true]
  unfold Civil.ofFields?
  rw [if_pos hvalid]
  rfl

/-- A year of two digits, and an offset of two hours. -/
theorem short_year_is_kept :
    let f : Fields := {
      shortYear := some "68".toList, month := some "02".toList
      day := some "29".toList, hour := some "11".toList
      zone := some "+0200".toList }
    f.Dated 2068 ∧ ∃ ts,
      (∀ t, dateAt 7200 t = ⟨2068, 2, 29⟩ ∧ clockAt 7200 t = 39600 ↔ t = ts)
      ∧ ∀ now, InYears 1970 9999 now → (f.time? 0 now).value = some ts := by
  intro f
  have hdigits : Text.digits? "68".toList = some 68 := by decide +kernel
  have hyear : f.Dated 2068 := .short rfl rfl rfl hdigits
  have hdate : Civil.IsDay ⟨2068, 2, 29⟩ :=
    ⟨by decide, by decide, 29, by decide, by decide⟩
  have hzone : f.zone? 0 = some 7200 := by decide +kernel
  have hclock : f.clock? = some 39600 := by decide +kernel
  exact ⟨hyear, (written_year_is_kept hyear (by decide +kernel)
    (by decide +kernel) hdate hzone hclock).1 (by decide)⟩

/-- The last day of 1999 is read on the first of January 2010 as that of
2009, and a year later as that of 2010. -/
theorem year_1999_is_dropped :
    let f : Fields := {
      year := some "1999".toList, month := some "12".toList
      day := some "31".toList, hour := some "23".toList
      minute := some "59".toList, second := some "59".toList }
    f.Dated 1999 ∧ Civil.IsDay ⟨1999, 12, 31⟩
      ∧ InYears 1970 9999 1262304000 ∧ InYears 1970 9999 1293840000
      ∧ (f.time? 0 1262304000).value = some 1262303999
      ∧ dateAt 0 1262303999 = ⟨2009, 12, 31⟩
      ∧ (f.time? 0 1293840000).value = some 1293839999
      ∧ dateAt 0 1293839999 = ⟨2010, 12, 31⟩ := by
  intro f
  have hdigits : Text.digits? "1999".toList = some 1999 := by decide +kernel
  have hyear : f.Dated 1999 := .long rfl rfl hdigits
  have hdate : Civil.IsDay ⟨1999, 12, 31⟩ :=
    ⟨by decide, by decide, 31, by decide, by decide⟩
  refine ⟨hyear, hdate, by decide +kernel, by decide +kernel, ?_, ?_, ?_, ?_⟩
  all_goals decide +kernel

end Gatewatch.Date
