/-
A date without a year is placed where it came up last.

# A month and a day

The candidates are the dates of the year that clocks show now and of the
four years before it. Going back a year goes back in time
(`comesUp?_lt`), so the first candidate that the calendar has and that
does not lie ahead is the latest one (`lastComingUp?_eq_some_iff`). A
date other than the leap day comes up in every year, and this year's and
last year's lie 366 days apart at most, so one of them is less than that
before now (`ComesUp.exists_recent`).

# A time of day alone

The time of the day that is shown now has been, or that of the day before
(`lastClock_eq_iff`).
-/
import Gatewatch.Proofs.Date.Clocks
import Mathlib.Order.Bounds.Basic

namespace Gatewatch.Date

-- =================================================== a month and a day

/-- An instant up to now at which clocks show a month, a day and a time,
in the year that they show now or in one of the four before it. -/
structure ComesUp (zone now : Int) (month day : Nat) (clock ts : Int) :
    Prop where
  past : ts ≤ now
  month : (dateAt zone ts).month = month
  day : (dateAt zone ts).day = day
  clock : clockAt zone ts = clock
  notBefore : (dateAt zone now).year - 4 ≤ (dateAt zone ts).year
  notAfter : (dateAt zone ts).year ≤ (dateAt zone now).year

section Candidates

variable {zone now year clock ts : Int} {month day back : Nat}

/-- A candidate is a date of the calendar that does not lie ahead. -/
theorem comesUp?_eq_some_iff :
    comesUp? zone now year month day clock back = some ts
      ↔ Civil.Valid ⟨year - back, month, day⟩
        ∧ ts = instant zone ⟨year - back, month, day⟩ clock ∧ ts ≤ now := by
  unfold comesUp? Civil.ofFields?
  by_cases hvalid : Civil.Valid ⟨year - back, month, day⟩
  · simp only [hvalid, if_true, true_and]
    split
    case isTrue hahead => simp only [reduceCtorEq, false_iff]; omega
    case isFalse hahead => simp only [Option.some.injEq]; omega
  · simp [hvalid]

/-- Earlier years are earlier. -/
theorem comesUp?_lt {ts' : Int} {back' : Nat} (hback : back < back')
    (h : comesUp? zone now year month day clock back = some ts)
    (h' : comesUp? zone now year month day clock back' = some ts') :
    ts' < ts := by
  obtain ⟨hvalid, rfl, -⟩ := comesUp?_eq_some_iff.1 h
  obtain ⟨hvalid', rfl, -⟩ := comesUp?_eq_some_iff.1 h'
  have hspan := ((Civil.valid_iff _).1 hvalid).1.year_spans
  have hspan' := ((Civil.valid_iff _).1 hvalid').1.year_spans
  have hyears : daysBeforeYear (year - back' + 1)
      ≤ daysBeforeYear (year - back) :=
    daysBeforeYear_le (by omega)
  unfold instant daySeconds
  dsimp only at hspan hspan'
  omega

/-- A date of the last years that does not lie ahead came up. -/
theorem ComesUp.of_date (hdate : Civil.IsDay ⟨year, month, day⟩)
    (hclock : 0 ≤ clock ∧ clock < daySeconds)
    (hpast : instant zone ⟨year, month, day⟩ clock ≤ now)
    (hlow : (dateAt zone now).year - 4 ≤ year)
    (hhigh : year ≤ (dateAt zone now).year) :
    ComesUp zone now month day clock
      (instant zone ⟨year, month, day⟩ clock) := by
  obtain ⟨hshown, htime⟩ := (shown_iff hdate hclock).2 rfl
  refine ⟨hpast, ?_, ?_, htime, ?_, ?_⟩ <;> rw [hshown] <;> assumption

/-- The candidates are the instants that are asked for. -/
theorem comesUp_iff (hnow : InYears 1970 9999 now) (hzone : IsZone zone)
    (hclock : 0 ≤ clock ∧ clock < daySeconds) :
    ComesUp zone now month day clock ts
      ↔ ∃ back ∈ List.range 5,
        comesUp? zone now (dateAt zone now).year month day clock back
          = some ts := by
  have hyear := year_dateAt hnow hzone
  constructor
  · intro h
    have hlow := h.notBefore
    have hhigh := h.notAfter
    generalize hback : (dateAt zone now).year - (dateAt zone ts).year = back
    lift back to Nat using by omega
    have hdate : (⟨(dateAt zone now).year - back, month, day⟩ : Civil)
        = dateAt zone ts := by
      rw [← h.month, ← h.day, ← hback, Int.sub_sub_self]
    refine ⟨back, List.mem_range.2 (by omega), comesUp?_eq_some_iff.2 ?_⟩
    rw [hdate, Civil.valid_iff, ← h.clock, instant_dateAt]
    refine ⟨⟨isDay_dateAt zone ts, ?_⟩, rfl, h.past⟩
    unfold minYear maxYear
    omega
  · rintro ⟨back, hback, h⟩
    obtain ⟨hvalid, rfl, hpast⟩ := comesUp?_eq_some_iff.1 h
    rw [List.mem_range] at hback
    exact .of_date ((Civil.valid_iff _).1 hvalid).1 hclock hpast
      (by omega) (by omega)

/-- The last time that a date came up is the latest of all. -/
theorem lastComingUp?_eq_some_iff (hnow : InYears 1970 9999 now)
    (hzone : IsZone zone) (hclock : 0 ≤ clock ∧ clock < daySeconds) :
    lastComingUp? zone now (dateAt zone now).year month day clock = some ts
      ↔ IsGreatest {t | ComesUp zone now month day clock t} ts := by
  have hlast : ∀ t, lastComingUp? zone now (dateAt zone now).year month day
      clock = some t →
        IsGreatest {t | ComesUp zone now month day clock t} t := by
    intro t ht
    obtain ⟨tried, back, left, hrange, hback, hnone⟩ :=
      List.findSome?_eq_some_iff.1 ht
    have horder : (tried ++ back :: left).Pairwise (· < ·) :=
      hrange ▸ List.pairwise_lt_range
    constructor
    · refine (comesUp_iff hnow hzone hclock).2 ⟨back, ?_, hback⟩
      rw [hrange]
      simp
    · intro t' ht'
      obtain ⟨back', hmem, hback'⟩ := (comesUp_iff hnow hzone hclock).1 ht'
      rw [hrange, List.mem_append, List.mem_cons] at hmem
      rcases hmem with hmem | rfl | hmem
      · rw [hnone back' hmem] at hback'
        cases hback'
      · rw [hback] at hback'
        exact Int.le_of_eq (Option.some.inj hback').symm
      · have hlt := (List.pairwise_cons.1
          (List.pairwise_append.1 horder).2.1).1 back' hmem
        exact Int.le_of_lt (comesUp?_lt hlt hback hback')
  constructor
  · exact hlast ts
  · intro hts
    -- some candidate comes up, and what is found is as great
    cases hfound : lastComingUp? zone now (dateAt zone now).year month day
        clock with
    | none =>
        obtain ⟨back, hmem, hback⟩ := (comesUp_iff hnow hzone hclock).1 hts.1
        rw [List.findSome?_eq_none_iff.1 hfound back hmem] at hback
        cases hback
    | some t => rw [(hlast t hfound).unique hts]

/-- There is none when the date did not come up. -/
theorem lastComingUp?_eq_none_iff (hnow : InYears 1970 9999 now)
    (hzone : IsZone zone) (hclock : 0 ≤ clock ∧ clock < daySeconds) :
    lastComingUp? zone now (dateAt zone now).year month day clock = none
      ↔ ∀ t, ¬ ComesUp zone now month day clock t := by
  unfold lastComingUp?
  rw [List.findSome?_eq_none_iff]
  constructor
  · intro hnone t ht
    obtain ⟨back, hmem, hback⟩ := (comesUp_iff hnow hzone hclock).1 ht
    rw [hnone back hmem] at hback
    cases hback
  · intro hnot back hmem
    cases hback : comesUp? zone now (dateAt zone now).year month day clock
        back with
    | none => rfl
    | some t =>
        exact absurd ((comesUp_iff hnow hzone hclock).2 ⟨back, hmem, hback⟩)
          (hnot t)

/-- What comes up in every year came up within the last 366 days. -/
theorem ComesUp.exists_recent (hclock : 0 ≤ clock ∧ clock < daySeconds)
    (hdate : ∀ y, Civil.IsDay ⟨y, month, day⟩) :
    ∃ t, ComesUp zone now month day clock t ∧ now - 366 * daySeconds < t := by
  obtain ⟨hlow, hhigh⟩ := dateAt_spans zone now
  generalize hyear : (dateAt zone now).year = year at hlow hhigh
  rw [daysBeforeYear_succ] at hhigh
  have hleap := leapDay_le year
  -- this year's date and the last one's
  have hthis := (hdate year).year_spans
  have hlast := (hdate (year - 1)).year_spans
  have hgap : Civil.toDay ⟨year, month, day⟩
      ≤ Civil.toDay ⟨year - 1, month, day⟩ + 366 := by
    have hnext := hdate (year - 1 + 1)
    have hle := Civil.toDay_next_year hnext
    rwa [Int.sub_add_cancel] at hle
  rw [Int.sub_add_cancel] at hlast
  dsimp only at hthis hlast
  have htime := hclock
  unfold daySeconds at hlow hhigh htime
  by_cases hpast : instant zone ⟨year, month, day⟩ clock ≤ now
  · refine ⟨_, .of_date (hdate year) hclock hpast (by omega) (by omega), ?_⟩
    unfold instant daySeconds
    omega
  · unfold instant daySeconds at hpast
    refine ⟨_, .of_date (hdate (year - 1)) hclock ?_ (by omega) (by omega), ?_⟩
    all_goals
      unfold instant daySeconds
      omega

end Candidates

-- ================================================= a time of day alone

/-- The last time that a time of day was shown, in the day up to now. -/
theorem lastClock_eq_iff {zone now clock ts : Int}
    (hclock : 0 ≤ clock ∧ clock < daySeconds) :
    lastClock zone now (dateAt zone now) clock = ts
      ↔ now - daySeconds < ts ∧ ts ≤ now ∧ clockAt zone ts = clock := by
  have hday : (dateAt zone now).toDay = (now + zone) / daySeconds :=
    (Civil.ofDay_spec _).2.1
  unfold lastClock instant clockAt
  rw [hday]
  unfold daySeconds at *
  dsimp only
  split <;> omega

-- ============================================================= placing

/-- What fields without a year are read by. -/
theorem Fields.value_time?_of_yearless {f : Fields}
    {offset zone now clock : Int} (hnow : InYears 1970 9999 now)
    (hyear : f.year = none) (hshort : f.shortYear = none)
    (hzone : f.zone? offset = some zone) (hclock : f.clock? = some clock) :
    (f.time? offset now).value
      = match f.month?.value, f.day? with
        | none, _ => none
        | some (some month), some day =>
          lastComingUp? zone now (dateAt zone now).year month day clock
        | some _, _ => some (lastClock zone now (dateAt zone now) clock) := by
  have hnone : f.year? = some none := by
    unfold year?
    rw [hyear, hshort]
  unfold time?
  simp only [hclock, hzone, hnone, Noted.value_bind]
  rw [localDate?_eq hnow]
  rcases f.month?.value with _ | _ | month
  case some.some =>
    rcases f.day? with _ | day
    case some =>
      -- whether this year's date lies ahead is noted, and no more
      dsimp only [Option.filter_none]
      split <;> rfl
    case none => rfl
  all_goals rfl

/-- Fields without a year stand for no instant ahead of now. With a month
and a day they stand for the last time that these came up with the time
of day, if they did, and for none else; a date other than the leap day
did, less than 366 days ago. Without a month or a day they stand for the
last time that the time of day was shown. An unknown name of a month
stands for no date. -/
theorem yearless_fields_came_up_last {f : Fields} {offset zone now clock : Int}
    (hnow : InYears 1970 9999 now) (hoffset : IsZone offset)
    (hyear : f.year = none) (hshort : f.shortYear = none)
    (hzone : f.zone? offset = some zone) (hclock : f.clock? = some clock) :
    let time := (f.time? offset now).value
    (∀ ts, time = some ts → ts ≤ now)
    ∧ (∀ month day, f.month?.value = some (some month) → f.day? = some day →
      (∀ ts, time = some ts
        ↔ IsGreatest {t | ComesUp zone now month day clock t} ts)
      ∧ (time = none ↔ ∀ t, ¬ ComesUp zone now month day clock t)
      ∧ ((∃ year, Civil.IsDay ⟨year, month, day⟩) →
        ¬ (month = 2 ∧ day = 29) →
        ∃ ts, time = some ts ∧ now - 366 * daySeconds < ts))
    ∧ (f.month?.value ≠ none →
      f.month?.value = some none ∨ f.day? = none →
      ∃ ts, time = some ts
        ∧ ∀ t, t = ts
          ↔ now - daySeconds < t ∧ t ≤ now ∧ clockAt zone t = clock)
    ∧ (f.month?.value = none → time = none) := by
  have hbounds := Fields.clock?_bounds hclock
  have hplace := Fields.isZone hoffset hzone
  have hlast : lastClock zone now (dateAt zone now) clock ≤ now :=
    ((lastClock_eq_iff hbounds).1 rfl).2.1
  dsimp only
  rw [Fields.value_time?_of_yearless hnow hyear hshort hzone hclock]
  refine ⟨?_, ?_, ?_, ?_⟩
  · intro ts hts
    split at hts
    · cases hts
    · exact ((lastComingUp?_eq_some_iff hnow hplace hbounds).1 hts).1.past
    · rw [← Option.some.inj hts]
      exact hlast
  · intro month day hmonth hday
    rw [hmonth, hday]
    dsimp only
    have hgreatest : ∀ ts, lastComingUp? zone now (dateAt zone now).year month
        day clock = some ts
          ↔ IsGreatest {t | ComesUp zone now month day clock t} ts :=
      fun ts => lastComingUp?_eq_some_iff hnow hplace hbounds
    have hnone : lastComingUp? zone now (dateAt zone now).year month day clock
        = none ↔ ∀ t, ¬ ComesUp zone now month day clock t :=
      lastComingUp?_eq_none_iff hnow hplace hbounds
    refine ⟨hgreatest, hnone, ?_⟩
    rintro ⟨year, hdate⟩ hleap
    obtain ⟨t, ht, hrecent⟩ : ∃ t, ComesUp zone now month day clock t
        ∧ now - 366 * daySeconds < t :=
      ComesUp.exists_recent hbounds fun y => hdate.of_year hleap y
    cases hfound : lastComingUp? zone now (dateAt zone now).year month day
        clock with
    | none => exact absurd ht (hnone.1 hfound t)
    | some ts =>
        have hle := ((hgreatest ts).1 hfound).2 ht
        exact ⟨ts, rfl, lt_of_lt_of_le hrecent hle⟩
  · intro hsome hlacks
    refine ⟨lastClock zone now (dateAt zone now) clock, ?_, fun t => ?_⟩
    · cases hmonth : f.month?.value with
      | none => exact absurd hmonth hsome
      | some month =>
          rcases hlacks with hlacks | hlacks
          · rw [hlacks] at hmonth
            rw [← Option.some.inj hmonth]
          · rw [hlacks]
            cases month <;> rfl
    · rw [eq_comm]
      exact lastClock_eq_iff hbounds
  · intro hunknown
    rw [hunknown]

/-- On the first of March 2005 the leap day of the year before was the
last one. -/
theorem leap_day_came_up_last_year :
    let f : Fields := {
      month := some "02".toList, day := some "29".toList
      hour := some "10".toList, minute := some "00".toList }
    (f.time? 0 1109635200).value = some 1078048800
      ∧ IsGreatest {t | ComesUp 0 1109635200 2 29 36000 t} 1078048800 := by
  intro f
  have htime : (f.time? 0 1109635200).value = some 1078048800 := by
    decide +kernel
  have hnow : InYears 1970 9999 1109635200 := by decide
  have hoffset : IsZone 0 := by decide
  have hclock : f.clock? = some 36000 := by decide +kernel
  have hplaced := yearless_fields_came_up_last hnow hoffset
    (rfl : f.year = none) rfl (rfl : f.zone? 0 = some 0) hclock
  exact ⟨htime, ((hplaced.2.1 2 29 (by decide +kernel) (by decide +kernel)).1
    1078048800).1 htime⟩

end Gatewatch.Date
