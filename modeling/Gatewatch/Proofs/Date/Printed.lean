/-
Printed times are found again.

An instant is printed in one layout (`printedLayout`). No built-in
template tells one digit from another (`blind_builtin`), so what it finds
in a printed time it finds in a text of zeros as well, and that is one
text only: two of the templates match it, each the whole of it with all
fields in their places, and the others do not match at all
(`placed_builtin`). Hence every template that reads a printed time reads
the instant (`reading?_printed`), and it makes no difference in which
order detecting and sorting have left them.
-/
import Gatewatch.Proofs.Date.Register
import Gatewatch.Proofs.Date.Stamp
import Gatewatch.Proofs.Pattern.Masked

namespace Gatewatch.Date

open Pattern

-- ========================================================= the printed text

/-- The layout in which instants are printed. -/
def printedLayout : List Piece :=
  [.field 'Y', .text '-', .field 'm', .text '-', .field 'd', .text ' ',
    .field 'H', .text ':', .field 'M', .text ':', .field 'S']

theorem isLayout_printed : IsLayout printedLayout := by decide

/-- An instant is printed as the stamp that clocks in UTC show. -/
theorem toList_formatTime {ts : Int} (hts : InYears 2000 9999 ts) :
    (formatTime ts).toList = (Stamp.shown 0 ts).write printedLayout := by
  obtain ⟨hlow, hhigh⟩ := hts
  have hrange : inRange ts = true := by
    have hdate : localDate? 0 ts = some (dateAt 0 ts) :=
      localDate?_eq ⟨Int.le_trans (by decide) hlow, hhigh⟩ 0
    unfold localDate? at hdate
    split at hdate
    case isTrue h => exact h
    case isFalse => cases hdate
  have hdate : Civil.ofDay (ts / daySeconds) = dateAt 0 ts := by
    unfold dateAt
    rw [Int.add_zero]
  have hclock : ts % daySeconds = clockAt 0 ts := by
    unfold clockAt
    rw [Int.add_zero]
  have hyear : yearText (dateAt 0 ts).year
      = padded 4 (dateAt 0 ts).year.toNat :=
    if_pos ⟨Int.le_trans (by decide) hlow, hhigh⟩
  unfold formatTime
  rw [if_pos hrange, hdate, hclock]
  dsimp only
  rw [hyear]
  simp [Stamp.write, printedLayout, Stamp.piece, Stamp.part, Stamp.places,
    Stamp.number, Stamp.shown]

-- ================================================================ zeros

/-- A zero in place of any digit. -/
def zeroed (c : Char) : Char := if c.isDigit then '0' else c

/-- Any digit is as wide as a zero. -/
theorem utf8Size_zeroed (c : Char) : (zeroed c).utf8Size = c.utf8Size := by
  unfold zeroed
  split
  case isTrue hdigit => exact (Text.utf8Size_of_isDigit hdigit).symm
  case isFalse => rfl

/-- A piece with zeros in place of digits. -/
def Piece.zeros : Piece → List Char
  | text c => [zeroed c]
  | field letter => List.replicate (Stamp.places letter) '0'

/-- Under zeros all stamps look the same. -/
theorem map_zeroed_write {s : Stamp} (hs : s.IsValid) (layout : List Piece) :
    (s.write layout).map zeroed = layout.flatMap Piece.zeros := by
  unfold Stamp.write
  rw [List.map_flatMap]
  refine List.flatMap_congr fun piece _ => ?_
  cases piece with
  | text c => rfl
  | field letter =>
      have hzero : ∀ c ∈ s.part letter, zeroed c = '0' := fun c hc =>
        if_pos (Stamp.isDigit_part hc)
      show (s.part letter).map zeroed = List.replicate (Stamp.places letter) '0'
      rw [← Stamp.length_part hs letter, List.map_congr_left hzero,
        List.map_const']

/-- A node is blind to which digit it is when none of its sets has some
digits only, and it asks for nothing but the start of the text. -/
theorem blind_zeroed {a : Node}
    (hsets : (a.sets.all fun s =>
      "0123456789".toList.all (s.has · == s.has '0')) = true)
    (hlooks : ∀ l ∈ a.looks, l = .textStart) : a.Blind zeroed where
  sets s hs c := by
    unfold zeroed
    split
    case isTrue hdigit =>
      have hall := List.all_eq_true.1 (List.all_eq_true.1 hsets s hs)
      exact (beq_iff_eq.1 (hall c (Text.mem_of_isDigit hdigit))).symm
    case isFalse => rfl
  looks l hl := hlooks l hl ▸ Look.blind_textStart

-- ======================================================== the templates

/-- The built-in templates do not tell one digit from another. -/
theorem blind_builtin {t : Template} (ht : t ∈ Builtin.templates) :
    t.pattern.root.Blind zeroed := by
  have hall : ∀ t ∈ Builtin.templates,
      (t.pattern.root.sets.all fun s =>
        "0123456789".toList.all (s.has · == s.has '0')) = true
      ∧ ∀ l ∈ t.pattern.root.looks, l = .textStart := by
    decide +kernel
  exact blind_zeroed (hall t ht).1 (hall t ht).2

/-- What a template finds in a text of zeros: the span, and the places of
the fields. -/
def foundInZeros (t : Template) : Option (Span × List (Option Span)) :=
  (t.pattern.find (printedLayout.flatMap Piece.zeros)).map fun m =>
    (m.span, (['y', 'b', 'z'] ++ letters).map fun letter =>
      t.pattern.named? m (String.singleton letter))

@[simp] theorem foundInZeros_fresh (t : Template) :
    foundInZeros t.fresh = foundInZeros t := rfl

/-- It finds nothing, or all that is printed in its place. -/
theorem placed_builtin {t : Template} (ht : t ∈ Builtin.templates) :
    foundInZeros t = none
      ∨ t.kind = .fields ∧ foundInZeros t
        = some (⟨0, 19⟩, (['y', 'b', 'z'] ++ letters).map fun letter =>
          place? letter 0 printedLayout) := by
  revert t
  decide +kernel

/-- What is found in zeros is found in any stamp. -/
theorem find_write {s : Stamp} (hs : s.IsValid) {t : Template}
    (ht : t ∈ Builtin.templates) :
    t.pattern.find (printedLayout.flatMap Piece.zeros)
      = t.pattern.find (s.write printedLayout) := by
  rw [← map_zeroed_write hs]
  exact Node.find_masked utf8Size_zeroed (blind_builtin ht) _

section Printed

variable {ts now : Int} (hts : InYears 2000 9999 ts)
  (hnow : InYears 1970 9999 now)
include hts

/-- The stamp that is printed is one of the calendar. -/
theorem isValid_printed : (Stamp.shown 0 ts).IsValid :=
  Stamp.isValid_shown hts.1 hts.2

theorem width_formatTime : Text.width (formatTime ts).toList = 19 := by
  rw [toList_formatTime hts, Stamp.width_write (isValid_printed hts)]
  rfl

include hnow

/-- A built-in template reads a printed time as what it is, or not at
all. -/
theorem reading?_printed {t : Template} (ht : t ∈ Builtin.templates) :
    t.reading? (formatTime ts).toList 0 now
      = (foundInZeros t).map fun _ => (⟨0, 19⟩, ts) := by
  have hs := isValid_printed hts
  have hplaced := placed_builtin ht
  rw [toList_formatTime hts]
  unfold foundInZeros at hplaced ⊢
  rw [find_write hs ht] at hplaced ⊢
  cases hfind : t.pattern.find ((Stamp.shown 0 ts).write printedLayout) with
  | none =>
      unfold Template.reading?
      rw [hfind]
      rfl
  | some m =>
      rw [hfind, Option.map_some] at hplaced
      obtain ⟨hkind, hplaced⟩ := hplaced.resolve_left nofun
      obtain ⟨hspan, hnamed⟩ := Prod.mk.inj (Option.some.inj hplaced)
      have hinstant : instant 0 (Stamp.shown 0 ts).date
          (Stamp.shown 0 ts).clock = ts :=
        ((Stamp.shown_eq_iff hs).1 rfl).symm
      rw [Stamp.reading?_write hs isLayout_printed hkind hfind
        (List.map_inj_left.1 hnamed) (localDate?_eq hnow 0), hspan, hinstant,
        Option.map_some, Option.map_some]

end Printed

-- ======================================================== the detector

/-- Detecting and sorting keep the built-in templates. -/
theorem fresh_run {calls : List Call}
    (hcalls : ∀ c ∈ calls, c = .sort ∨ ∃ line now, c = .find line now) :
    (((Detector.builtin 0).run calls).templates.map Template.fresh).Perm
      Builtin.templates := by
  have hr := Register.sound_run 0 calls
  have hnone : ∀ pick : Call → Option Template,
      (∀ c ∈ calls, pick c = none) → Register.joined pick calls = [] := by
    intro pick hpick
    unfold Register.joined
    refine List.filterMap_eq_nil_iff.2 fun c hc => ?_
    rw [hpick c.1 (List.fst_mem_of_mem_zipIdx hc), Option.map_none]
  have hstanding : Register.standing calls = Builtin.templates.zipIdx := by
    unfold Register.standing
    rw [hnone, hnone]
    · rfl
    all_goals
      intro c hc
      rcases hcalls c hc with rfl | ⟨line, now, rfl⟩ <;> rfl
  have hkept := hr.kept.map Prod.fst
  rw [hstanding, List.zipIdx_map_fst, List.map_map] at hkept
  have hrun : ((Register.builtin 0).run calls).detector
      = (Detector.builtin 0).run calls := Register.detector_run _ _
  rw [← hrun, Register.templates_eq hr.length, List.map_map]
  exact hkept

/-- A time that was printed is found, and it is the whole text, whatever
was looked for before and however the templates were sorted. -/
theorem printed_time_is_detected {calls : List Call}
    (hcalls : ∀ c ∈ calls, c = .sort ∨ ∃ line now, c = .find line now)
    {ts now : Int} (hts : InYears 2000 9999 ts)
    (hnow : InYears 1970 9999 now) :
    let text := (formatTime ts).toList
    (((Detector.builtin 0).run calls).detect text now).value.2
      = some ⟨⟨0, Text.width text⟩, some ts⟩ := by
  intro text
  have hfresh := fresh_run hcalls
  have hzone : ((Detector.builtin 0).run calls).zone = 0 :=
    Detector.zone_run _ _
  have hreading : ∀ t ∈ ((Detector.builtin 0).run calls).templates,
      t.reading? text ((Detector.builtin 0).run calls).zone now
        = (foundInZeros t).map fun _ => (⟨0, 19⟩, ts) := by
    intro t ht
    have hreads := reading?_printed hts hnow
      (hfresh.mem_iff.1 (List.mem_map_of_mem ht))
    rwa [Template.reading?_fresh, foundInZeros_fresh, ← hzone] at hreads
  rw [width_formatTime hts]
  refine Detector.detect_of_agreement (fun t ht => ?_) ?_
  · rw [hreading t ht]
    cases foundInZeros t
    · exact .inl rfl
    · exact .inr rfl
  · have hsome : ∃ t ∈ Builtin.templates, foundInZeros t ≠ none := by
      decide +kernel
    obtain ⟨t, ht, hfound⟩ := hsome
    obtain ⟨u, hu, rfl⟩ := List.mem_map.1 (hfresh.mem_iff.2 ht)
    refine ⟨u, hu, ?_⟩
    rw [hreading u hu, ← foundInZeros_fresh]
    exact fun hnone => hfound (Option.map_eq_none_iff.1 hnone)

/-- The last second of the year 9999, behind a line that another template
reads. -/
theorem last_second_is_detected :
    let calls := [Call.find "2005/08/14 11:59:59".toList 1262304000, .sort]
    let text := (formatTime 253402300799).toList
    text = "9999-12-31 23:59:59".toList
      ∧ (((Detector.builtin 0).run calls).detect text 0).value.2
        = some ⟨⟨0, Text.width text⟩, some 253402300799⟩ := by
  intro calls text
  have hcalls : ∀ c ∈ calls, c = .sort ∨ ∃ line now, c = .find line now := by
    simp [calls]
  exact ⟨by decide +kernel, printed_time_is_detected hcalls
    (by decide +kernel) (by decide +kernel)⟩

end Gatewatch.Date
