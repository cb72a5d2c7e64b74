/-
Dates as they are written.

A stamp is a date with a time of day, as clocks show it. Its parts are
written with as many digits as their letters have, zeros in front
(`length_part`), and each is read back as the number that it is
(`digits?_part`). So what is written for a stamp stands for the one
instant at which clocks show the stamp (`value_time?_fields`,
`shown_eq_iff`).

# Layouts

A layout says in which order the parts are written, and what is written
between them. Where a part lies is told by the layout alone, whatever the
stamp is (`place?`, `text_of_place?`). A match that finds each part in
its place finds the fields of the stamp (`fieldsOf_write`).
-/
import Gatewatch.Proofs.Date.Clocks
import Gatewatch.Proofs.Date.Trial
import Gatewatch.Proofs.Text.Numeral

namespace Gatewatch.Date

-- ============================================================== numbers

section Padded

variable {count n : Nat}

theorem toList_padded (count n : Nat) :
    (padded count n).toList
      = List.replicate (count - (Nat.toDigits 10 n).length) '0'
        ++ Nat.toDigits 10 n := String.toList_ofList

/-- Zeros in front make no difference to the number. -/
theorem digits?_padded (count n : Nat) :
    Text.digits? (padded count n).toList = some n := by
  have hnumber := Text.digits?_toDigits n
  have hdigits := Text.isDigit_of_digits? hnumber
  rw [toList_padded]
  generalize Nat.toDigits 10 n = cs at hnumber hdigits
  generalize count - cs.length = zeros
  have hzeros : (List.replicate zeros '0').foldl
      (fun n c => 10 * n + (c.toNat - 48)) 0 = 0 := by
    induction zeros with
    | zero => rfl
    | succ zeros ih => exact ih
  unfold Text.digits? at hnumber ⊢
  rw [List.foldl_append, hzeros]
  split at hnumber
  case isTrue => cases hnumber
  case isFalse hcs =>
    rw [if_neg]
    · exact hnumber
    · simp_all

/-- A number has the digits it is given when it has no more of its own. -/
theorem length_padded (hcount : 0 < count) (hn : n < 10 ^ count) :
    (padded count n).toList.length = count := by
  have hlength := (Nat.length_toDigits_le_iff (by decide) hcount).2 hn
  rw [toList_padded, List.length_append, List.length_replicate]
  omega

end Padded

-- =============================================================== stamps

/-- No month is longer than 31 days. -/
theorem Civil.IsDay.day_le {d : Civil} (h : d.IsDay) : d.day ≤ 31 := by
  obtain ⟨-, -, length, hlength, hlast⟩ := h
  have hmem := List.mem_of_getElem? hlength
  have hlong : ∀ l ∈ monthLengths d.year, l ≤ 31 := by
    unfold monthLengths
    cases isLeap d.year <;> decide
  exact Nat.le_trans hlast (hlong length hmem)

/-- A date with a time of day. -/
structure Stamp where
  date : Civil
  hour : Nat
  minute : Nat
  second : Nat
deriving DecidableEq, Repr

namespace Stamp

/-- A stamp of the calendar, in the years from 2000 to 9999. -/
structure IsValid (s : Stamp) : Prop where
  day : s.date.IsDay
  notBefore : 2000 ≤ s.date.year
  notAfter : s.date.year ≤ 9999
  hour : s.hour < 24
  minute : s.minute < 60
  second : s.second < 60

/-- The time of day, in seconds. -/
def clock (s : Stamp) : Int :=
  (((s.hour * 60 + s.minute) * 60 + s.second : Nat) : Int)

/-- What clocks of a zone show. -/
def shown (zone ts : Int) : Stamp :=
  let seconds := (clockAt zone ts).toNat
  ⟨dateAt zone ts, seconds / 3600, seconds / 60 % 60, seconds % 60⟩

variable {s : Stamp}

/-- A stamp is shown at one instant. -/
theorem shown_eq_iff (hs : s.IsValid) {zone ts : Int} :
    shown zone ts = s ↔ ts = instant zone s.date s.clock := by
  obtain ⟨hday, -, -, hhour, hminute, hsecond⟩ := hs
  obtain ⟨date, hour, minute, second⟩ := s
  have hclock : 0 ≤ clockAt zone ts ∧ clockAt zone ts < 86400 := by
    unfold clockAt daySeconds
    omega
  rw [← shown_iff hday (by unfold clock daySeconds; omega)]
  unfold shown clock
  simp only [Stamp.mk.injEq] at *
  constructor
  · rintro ⟨hdate, rfl, rfl, rfl⟩
    exact ⟨hdate, by omega⟩
  · rintro ⟨hdate, htime⟩
    exact ⟨hdate, by omega, by omega, by omega⟩

/-- What is shown in years of four digits is a stamp. -/
theorem isValid_shown {zone ts : Int} (hlow : 2000 ≤ (dateAt zone ts).year)
    (hhigh : (dateAt zone ts).year ≤ 9999) : (shown zone ts).IsValid := by
  have hclock : 0 ≤ clockAt zone ts ∧ clockAt zone ts < 86400 := by
    unfold clockAt daySeconds
    omega
  unfold shown
  refine ⟨isDay_dateAt zone ts, hlow, hhigh, ?_, ?_, ?_⟩
  all_goals
    dsimp only
    omega

-- ================================================================ parts

/-- The number that is written for the field of a letter. -/
def number (s : Stamp) : Char → Nat
  | 'Y' => s.date.year.toNat
  | 'm' => s.date.month
  | 'd' => s.date.day
  | 'H' => s.hour
  | 'M' => s.minute
  | 'S' => s.second
  | _ => 0

/-- How many digits it is written with. -/
def places (letter : Char) : Nat := if letter = 'Y' then 4 else 2

/-- What is written for the field of a letter. -/
def part (s : Stamp) (letter : Char) : List Char :=
  (padded (places letter) (s.number letter)).toList

/-- The fields that are written. -/
def fields (s : Stamp) : Fields where
  year := some (s.part 'Y')
  month := some (s.part 'm')
  day := some (s.part 'd')
  hour := some (s.part 'H')
  minute := some (s.part 'M')
  second := some (s.part 'S')

theorem digits?_part (s : Stamp) (letter : Char) :
    Text.digits? (s.part letter) = some (s.number letter) :=
  digits?_padded _ _

/-- The numbers of a stamp have no more digits than they are written
with. -/
theorem number_lt (hs : s.IsValid) (letter : Char) :
    s.number letter < 10 ^ places letter := by
  have hmonth := hs.day.month_le
  have hday := hs.day.day_le
  obtain ⟨-, hlow, hhigh, hhour, hminute, hsecond⟩ := hs
  have hplaces : 100 ≤ 10 ^ places letter := by
    unfold places
    split <;> decide
  unfold number
  split
  case h_1 =>
    show _ < 10 ^ 4
    omega
  all_goals omega

theorem length_part (hs : s.IsValid) (letter : Char) :
    (s.part letter).length = places letter :=
  length_padded (by unfold places; split <;> decide) (number_lt hs letter)

/-- What is written for a stamp stands for the instant at which it is
shown. -/
theorem value_time?_fields (hs : s.IsValid) {zone now : Int} {today : Civil}
    (hnow : localDate? zone now = some today) :
    (s.fields.time? zone now).value = some (instant zone s.date s.clock) := by
  have hsmall : ∀ letter, s.number letter < 10000 := fun letter => by
    refine Nat.lt_of_lt_of_le (number_lt hs letter) ?_
    unfold places
    split <;> decide
  have hread : ∀ letter, Text.unsigned? (Word.size 32) (s.part letter)
      = some (s.number letter) := fun letter =>
    Text.unsigned?_of_digits? (digits?_part s letter)
      (Nat.lt_trans (hsmall letter) (by decide))
  have hyear : s.fields.year? = some (some s.date.year) := by
    have hsigned : Text.signed? 32 (s.part 'Y')
        = some ((s.number 'Y' : Nat) : Int) :=
      Text.signed?_of_digits? (digits?_part s 'Y')
        (Nat.lt_trans (hsmall 'Y') (by decide))
    have hcast : ((s.number 'Y' : Nat) : Int) = s.date.year :=
      Int.toNat_of_nonneg (Int.le_trans (by decide) hs.notBefore)
    exact congrArg some (hsigned.trans (congrArg some hcast))
  have hmonth : s.fields.month?.value = some (some s.date.month) :=
    congrArg some (hread 'm')
  have hday : s.fields.day? = some s.date.day := hread 'd'
  have hclock : s.fields.clock? = some s.clock := by
    unfold Fields.clock?
    have hpart : ∀ letter, Fields.clockPart? (some (s.part letter))
        = some (s.number letter) := hread
    simp only [fields, hpart, Option.bind_eq_bind, Option.bind_some]
    exact if_pos ⟨hs.hour, hs.minute, hs.second⟩
  have hvalid : s.date.Valid := by
    refine (Civil.valid_iff _).2 ⟨hs.day, ?_⟩
    have hlow := hs.notBefore
    have hhigh := hs.notAfter
    unfold minYear maxYear
    omega
  have hzone : s.fields.zone? zone = some zone := rfl
  unfold Fields.time?
  simp only [hclock, hzone, hyear, Noted.value_bind, hmonth, hday, hnow,
    Option.filter_some, hs.notBefore, decide_true, if_true]
  unfold Civil.ofFields?
  rw [if_pos hvalid]
  rfl

end Stamp

-- ============================================================== layouts

/-- The letters of the parts of a stamp. -/
def letters : List Char := ['Y', 'm', 'd', 'H', 'M', 'S']

/-- The width of what is written for a piece. -/
def Piece.width : Piece → Nat
  | text c => c.utf8Size
  | field letter => Stamp.places letter

/-- The letter of a field. -/
def Piece.letter? : Piece → Option Char
  | text _ => none
  | field letter => some letter

/-- A layout in which each part of a stamp comes up once, and nothing else
does. -/
def IsLayout (layout : List Piece) : Prop :=
  (layout.filterMap Piece.letter?).Perm letters

instance (layout : List Piece) : Decidable (IsLayout layout) := by
  unfold IsLayout
  infer_instance

/-- Where the field of a letter lies, behind the given number of bytes. -/
def place? (letter : Char) : Nat → List Piece → Option Pattern.Span
  | _, [] => none
  | start, piece :: layout =>
    if piece = .field letter then
      some ⟨start, start + Stamp.places letter⟩
    else place? letter (start + piece.width) layout

namespace Stamp

/-- What is written for a piece. -/
def piece (s : Stamp) : Piece → List Char
  | .text c => [c]
  | .field letter => s.part letter

/-- The text of a stamp in a layout. -/
def write (s : Stamp) (layout : List Piece) : List Char :=
  layout.flatMap s.piece

variable {s : Stamp}

theorem isDigit_part {c : Char} {letter : Char} (h : c ∈ s.part letter) :
    c.isDigit = true :=
  Text.isDigit_of_digits? (digits?_part s letter) c h

/-- A part is as wide as it has digits. -/
theorem width_part (hs : s.IsValid) (letter : Char) :
    Text.width (s.part letter) = places letter := by
  have hwidth : ∀ cs : List Char, (∀ c ∈ cs, c.isDigit = true) →
      Text.width cs = cs.length := by
    intro cs hcs
    induction cs with
    | nil => rfl
    | cons c cs ih =>
        rw [Text.width_cons,
          Text.utf8Size_of_isDigit (hcs c List.mem_cons_self),
          List.length_cons, Nat.add_comm,
          ih fun x hx => hcs x (List.mem_cons_of_mem c hx)]
  rw [hwidth _ fun c => isDigit_part, length_part hs]

theorem width_piece (hs : s.IsValid) (piece : Piece) :
    Text.width (s.piece piece) = piece.width := by
  cases piece with
  | text c => rfl
  | field letter => exact width_part hs letter

theorem width_write (hs : s.IsValid) (layout : List Piece) :
    Text.width (s.write layout) = (layout.map Piece.width).sum := by
  induction layout with
  | nil => rfl
  | cons piece layout ih =>
      rw [List.map_cons, List.sum_cons, ← ih, ← width_piece hs,
        ← Text.width_append]
      rfl

/-- A field is written in its place. -/
theorem text_of_place? (hs : s.IsValid) {letter : Char} {span : Pattern.Span}
    {layout : List Piece} (front : List Char)
    (h : place? letter (Text.width front) layout = some span) :
    span.text (front ++ s.write layout) = s.part letter := by
  induction layout generalizing front with
  | nil => cases h
  | cons piece layout ih =>
      unfold place? at h
      split at h
      case isTrue hpiece =>
        injection h with h
        subst h hpiece
        unfold Pattern.Span.text Text.between write
        dsimp only
        rw [Text.beyond_width_append, Nat.add_sub_cancel_left,
          ← width_part hs letter, List.flatMap_cons]
        exact Text.upTo_width_append _ _
      case isFalse =>
        have hnext := ih (front ++ s.piece piece)
          (by rw [Text.width_append, width_piece hs]; exact h)
        unfold write at hnext ⊢
        rw [List.flatMap_cons, ← List.append_assoc]
        exact hnext

end Stamp

/-- The letters that have a place are those of the fields. -/
theorem isSome_place? {letter : Char} {start : Nat} {layout : List Piece} :
    (place? letter start layout).isSome = true
      ↔ letter ∈ layout.filterMap Piece.letter? := by
  induction layout generalizing start with
  | nil => simp [place?]
  | cons piece layout ih =>
      unfold place?
      cases piece with
      | text c => simpa [Piece.letter?] using ih
      | field other =>
          by_cases h : other = letter
          · simp [h, Piece.letter?]
          · simpa [h, Ne.symm h, Piece.letter?] using ih

/-- A match that finds the fields in their places finds what is written
for the stamp. -/
theorem Stamp.fieldsOf_write {s : Stamp} (hs : s.IsValid)
    {layout : List Piece} (hlayout : IsLayout layout) {p : Pattern}
    {m : Pattern.Match}
    (hnamed : ∀ letter ∈ ['y', 'b', 'z'] ++ letters,
      p.named? m (String.singleton letter) = place? letter 0 layout) :
    fieldsOf p m (s.write layout) = s.fields := by
  have hsome : ∀ letter ∈ letters,
      (p.named? m (String.singleton letter)).map (·.text (s.write layout))
        = some (s.part letter) := by
    intro letter hletter
    have hplace : (place? letter 0 layout).isSome = true :=
      isSome_place?.2 (hlayout.mem_iff.2 hletter)
    obtain ⟨span, hspan⟩ := Option.isSome_iff_exists.1 hplace
    rw [hnamed letter (List.mem_append_right _ hletter), hspan,
      Option.map_some]
    exact congrArg some (text_of_place? hs [] hspan)
  have hnone : ∀ letter ∈ ['y', 'b', 'z'],
      (p.named? m (String.singleton letter)).map (·.text (s.write layout))
        = none := by
    intro letter hletter
    have hplace : place? letter 0 layout = none := by
      simp only [List.mem_cons, List.not_mem_nil, or_false] at hletter
      rw [← Option.not_isSome_iff_eq_none, isSome_place?,
        hlayout.mem_iff]
      rcases hletter with rfl | rfl | rfl <;> decide
    rw [hnamed letter (List.mem_append_left _ hletter), hplace,
      Option.map_none]
  unfold fieldsOf fields
  simp only [Fields.mk.injEq]
  exact ⟨hsome 'Y' (by decide), hnone 'y' (by decide),
    hsome 'm' (by decide), hnone 'b' (by decide), hsome 'd' (by decide),
    hsome 'H' (by decide), hsome 'M' (by decide), hsome 'S' (by decide),
    hnone 'z' (by decide)⟩

/-- A template that finds the fields in their places reads the stamp. -/
theorem Stamp.reading?_write {s : Stamp} (hs : s.IsValid)
    {layout : List Piece} (hlayout : IsLayout layout) {t : Template}
    {m : Pattern.Match} {zone now : Int} {today : Civil}
    (hkind : t.kind = .fields)
    (hfind : t.pattern.find (s.write layout) = some m)
    (hnamed : ∀ letter ∈ ['y', 'b', 'z'] ++ letters,
      t.pattern.named? m (String.singleton letter) = place? letter 0 layout)
    (hnow : localDate? zone now = some today) :
    t.reading? (s.write layout) zone now
      = some (m.span, instant zone s.date s.clock) := by
  unfold Template.reading? Template.time?
  rw [hfind, Option.bind_some, hkind]
  dsimp only
  rw [fieldsOf_write hs hlayout hnamed, value_time?_fields hs hnow,
    Option.map_some]

end Gatewatch.Date
