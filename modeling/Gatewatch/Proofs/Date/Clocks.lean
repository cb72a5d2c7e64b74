/-
What clocks show.

At an instant the clocks of a zone show a date and a time of day. Both
together tell the instant (`shown_iff`): the date has its day number and
the time says how far into that day the instant lies.

While years have four digits in UTC, every zone shows a year that dates
can be given for, four years before it included (`year_dateAt`); zones
are less than a day ahead of UTC or behind it (`zone_bounds`).
-/
import Gatewatch.Date.Fields
import Gatewatch.Proofs.Date.Calendar

namespace Gatewatch.Date

-- ============================================================ showing

/-- The date that clocks of a zone show. -/
def dateAt (zone ts : Int) : Civil := Civil.ofDay ((ts + zone) / daySeconds)

/-- The time of day that they show, in seconds. -/
def clockAt (zone ts : Int) : Int := (ts + zone) % daySeconds

/-- A date and a time of day are shown at one instant only. -/
theorem shown_iff {zone clock ts : Int} {date : Civil} (hdate : date.IsDay)
    (hclock : 0 ≤ clock ∧ clock < daySeconds) :
    dateAt zone ts = date ∧ clockAt zone ts = clock
      ↔ ts = instant zone date clock := by
  unfold dateAt clockAt instant daySeconds at *
  constructor
  · rintro ⟨hshown, htime⟩
    have hday := (Civil.ofDay_spec ((ts + zone) / 86400)).2.1
    rw [hshown] at hday
    omega
  · intro hts
    have hday : (ts + zone) / 86400 = date.toDay := by omega
    refine ⟨?_, by omega⟩
    rw [hday, Civil.ofDay_toDay hdate]

/-- The date that is shown is one of the calendar. -/
theorem isDay_dateAt (zone ts : Int) : (dateAt zone ts).IsDay :=
  (Civil.ofDay_spec _).1

/-- The year that is shown has begun and has not ended. -/
theorem dateAt_spans (zone ts : Int) :
    daysBeforeYear (dateAt zone ts).year ≤ (ts + zone) / daySeconds + epochDay
      ∧ (ts + zone) / daySeconds + epochDay
        < daysBeforeYear ((dateAt zone ts).year + 1) := by
  have hspan := (isDay_dateAt zone ts).year_spans
  unfold dateAt at hspan ⊢
  rwa [(Civil.ofDay_spec _).2.1] at hspan

/-- An instant is when its date and its time are shown. -/
theorem instant_dateAt (zone ts : Int) :
    instant zone (dateAt zone ts) (clockAt zone ts) = ts := by
  have hclock : 0 ≤ clockAt zone ts ∧ clockAt zone ts < daySeconds := by
    unfold clockAt daySeconds
    omega
  exact ((shown_iff (isDay_dateAt zone ts) hclock).1 ⟨rfl, rfl⟩).symm

-- ============================================================= bounds

/-- The years that clocks in UTC show at an instant. -/
def InYears (first last now : Int) : Prop :=
  first ≤ (dateAt 0 now).year ∧ (dateAt 0 now).year ≤ last

/-- Zones are less than a day ahead of UTC or behind it. -/
def IsZone (zone : Int) : Prop := -daySeconds < zone ∧ zone < daySeconds

instance (first last now : Int) : Decidable (InYears first last now) := by
  unfold InYears
  infer_instance

instance (zone : Int) : Decidable (IsZone zone) := by
  unfold IsZone
  infer_instance

/-- Instants of these years have a date. -/
theorem localDate?_eq {now : Int} (h : InYears 1970 9999 now) (zone : Int) :
    localDate? zone now = some (dateAt zone now) := by
  have hyear : (dateAt 0 now).year
      = Civil.yearOf (now / daySeconds + epochDay) := by
    unfold dateAt
    rw [(Civil.ofDay_spec _).2.2, Int.add_zero]
  have hrange : inRange now = true := by
    unfold InYears at h
    rw [hyear] at h
    unfold inRange minYear maxYear
    simp only [Bool.and_eq_true, decide_eq_true_eq]
    omega
  unfold localDate?
  rw [if_pos hrange]
  rfl

/-- The year that a zone shows is off by one at most. -/
theorem year_dateAt {now zone : Int} (h : InYears 1970 9999 now)
    (hzone : IsZone zone) :
    1969 ≤ (dateAt zone now).year ∧ (dateAt zone now).year ≤ 10000 := by
  obtain ⟨hlow, hhigh⟩ := dateAt_spans 0 now
  obtain ⟨hlow', hhigh'⟩ := dateAt_spans zone now
  unfold InYears at h
  unfold IsZone daySeconds at hzone
  unfold daySeconds at hlow hhigh hlow' hhigh'
  have hfirst := daysBeforeYear_le h.1
  have hlast := daysBeforeYear_le
    (show (dateAt 0 now).year + 1 ≤ 10000 by omega)
  constructor
  · by_contra hlt
    have := daysBeforeYear_le
      (show (dateAt zone now).year + 1 ≤ 1969 by omega)
    have hgap : daysBeforeYear 1970 = daysBeforeYear 1969 + 365 := rfl
    omega
  · by_contra hlt
    have := daysBeforeYear_le
      (show 10001 ≤ (dateAt zone now).year by omega)
    have hgap : daysBeforeYear 10001 = daysBeforeYear 10000 + 366 := rfl
    omega

/-- A time of day is one of a day. -/
theorem clock?_bounds {hour minute second : Nat} {clock : Int}
    (h : clock? hour minute second = some clock) :
    0 ≤ clock ∧ clock < daySeconds := by
  unfold clock? at h
  split at h
  case isTrue htime =>
    injection h with h
    unfold daySeconds
    omega
  case isFalse => cases h

theorem Fields.clock?_bounds {f : Fields} {clock : Int}
    (h : f.clock? = some clock) : 0 ≤ clock ∧ clock < daySeconds := by
  obtain ⟨hour, -, h⟩ := Option.bind_eq_some_iff.1 h
  obtain ⟨minute, -, h⟩ := Option.bind_eq_some_iff.1 h
  obtain ⟨second, -, h⟩ := Option.bind_eq_some_iff.1 h
  exact Date.clock?_bounds h

/-- An offset that is read is a zone. -/
theorem isZone_of_offset? {cs : List Char} {zone : Int}
    (h : offset? cs = some zone) : IsZone zone := by
  unfold offset? at h
  split at h
  case isTrue =>
    injection h with h
    rw [← h]
    decide
  case isFalse =>
    -- the sign, the hours and the minutes are read, then the sum is tested
    dsimp only at h
    split at h
    case h_3 => cases h
    all_goals
      obtain ⟨_, -, h⟩ := Option.bind_eq_some_iff.1 h
      obtain ⟨_, -, h⟩ := Option.bind_eq_some_iff.1 h
      obtain ⟨_, -, h⟩ := Option.bind_eq_some_iff.1 h
      obtain ⟨_, -, h⟩ := Option.bind_eq_some_iff.1 h
      obtain ⟨_, -, h⟩ := Option.bind_eq_some_iff.1 h
      split at h
      case isTrue hzone => exact Option.some.inj h ▸ hzone
      case isFalse => cases h

/-- The zone that is in effect is a zone. -/
theorem Fields.isZone {f : Fields} {offset zone : Int}
    (hoffset : IsZone offset) (h : f.zone? offset = some zone) :
    IsZone zone := by
  unfold zone? at h
  split at h
  · exact isZone_of_offset? h
  · injection h with h
    rwa [← h]

end Gatewatch.Date
