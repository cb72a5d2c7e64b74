/-
A user's pattern reads what it describes.

A stamp is written in the layout of a pattern. Each field of the pattern
takes as many digits as it can, and that is what is written for it: no
field takes more digits than its part has, even where the next part
follows without a separator (`first_field`). So the match that is
preferred goes through the text piece by piece, to its end
(`first_nodes`), and its groups lie where the fields were written
(`named?_described`).
-/
import Gatewatch.Proofs.Date.Layout
import Gatewatch.Proofs.Pattern.Preferred

namespace Gatewatch.Date

open Pattern

-- ============================================================= the match

/-- The groups of a match of a layout, with the places of the fields. -/
def marks : Nat → Nat → List Piece → List (Nat × Span)
  | _, _, [] => []
  | groups, start, .text c :: layout =>
    marks groups (start + c.utf8Size) layout
  | groups, start, .field letter :: layout =>
    (groups + 1, ⟨start, start + Stamp.places letter⟩)
      :: marks (groups + 1) (start + Stamp.places letter) layout

section Match

variable {s : Stamp} (hs : s.IsValid)
include hs

/-- A field takes the digits of its part, and no others. -/
theorem first_field {index : Nat} {letter : Char} {t : Thread}
    {more : List Char} (hrest : t.cursor.rest = s.part letter ++ more) :
    (fieldNode index letter).first t
      = some ⟨t.cursor.past (s.part letter).length,
        (index, ⟨t.cursor.offset, t.cursor.offset + Stamp.places letter⟩)
          :: t.groups⟩ := by
  have hdigit : ∀ c ∈ s.part letter, (CharSet.digit true).has c = true := by
    have hall : "0123456789".toList.all (CharSet.digit true).has = true := by
      decide +kernel
    exact fun c hc => List.all_eq_true.1 hall c
      (Text.mem_of_isDigit (Stamp.isDigit_part hc))
  have hlength := Stamp.length_part hs letter
  have htaken : min (Stamp.places letter)
      (t.cursor.rest.takeWhile (CharSet.digit true).has).length
        = (s.part letter).length := by
    rw [hrest, List.takeWhile_append_of_pos hdigit, List.length_append,
      hlength]
    exact Nat.min_eq_left (Nat.le_add_right _ _)
  have hrun : (Node.run (.digit true) (fewest letter)
      (some (Stamp.places letter)) true).first t
        = some (t.past (s.part letter).length) := by
    rw [← htaken]
    refine Node.first_run ?_
    rw [Option.getD_some, htaken, hlength]
    exact fewest_le letter
  unfold fieldNode
  rw [Node.first_group, hrun, Option.map_some]
  have hstop : (t.past (s.part letter).length).cursor.offset
      = t.cursor.offset + Stamp.places letter := by
    unfold Thread.past
    rw [Cursor.offset_past, hrest, List.take_left, Stamp.width_part hs]
  rw [hstop]
  rfl

/-- The preferred match of a layout takes what is written in it. -/
theorem first_nodes {layout : List Piece} (groups : Nat) {ts : List Thread}
    {t : Thread} {more : List Char} (ht : ts.head? = some t)
    (hrest : t.cursor.rest = s.write layout ++ more) :
    ((nodes groups layout).foldl (fun ts a => Node.follow a.threads ts)
        ts).head?
      = some ⟨t.cursor.past (s.write layout).length,
        (marks groups t.cursor.offset layout).reverse ++ t.groups⟩ := by
  induction layout generalizing groups ts t with
  | nil => exact ht
  | cons piece layout ih =>
      have hwrite : s.write (piece :: layout)
          = s.piece piece ++ s.write layout := List.flatMap_cons
      rw [hwrite, List.append_assoc] at hrest
      rw [hwrite, List.length_append, Cursor.past_add]
      have hmore := Thread.rest_past_length hrest
      have hoffset : (t.cursor.past (s.piece piece).length).offset
          = t.cursor.offset + piece.width := by
        rw [Cursor.offset_past, hrest, List.take_left, Stamp.width_piece hs]
      cases piece with
      | text c =>
          have hfirst : (Node.set (.single c)).first t = some (t.past 1) := by
            have hsame : (CharSet.single c).has c = true := beq_self_eq_true c
            unfold Node.first
            rw [Node.threads_set_cons hrest, if_pos hsame]
            rfl
          refine (ih groups (Node.head?_follow_of_head? ht hfirst)
            hmore).trans ?_
          rw [show (t.past 1).cursor.offset = _ from hoffset]
          rfl
      | field letter =>
          refine (ih (groups + 1) (Node.head?_follow_of_head? ht
            (first_field hs hrest)) hmore).trans ?_
          dsimp only
          rw [show (t.cursor.past (s.part letter).length).offset = _
            from hoffset, marks, List.reverse_cons, List.append_assoc]
          rfl

/-- Such a match is the one that is found. -/
theorem find_described (anchored : Bool) (layout : List Piece) :
    (described anchored layout).pattern.find (s.write layout)
      = some ⟨⟨0, Text.width (s.write layout)⟩,
        (marks 0 0 layout).reverse⟩ := by
  have hstart : ((if anchored then [Node.look .textStart] else []).foldl
      (fun ts a => Node.follow a.threads ts)
        [⟨.start (s.write layout), []⟩]).head?
        = some ⟨.start (s.write layout), []⟩ := by
    cases anchored <;> rfl
  have hfirst := first_nodes hs 0 hstart (List.append_nil _).symm
  refine Node.find_of_matchAt? ?_
  unfold Node.matchAt? described root
  rw [Node.threads_concat, List.foldl_append, hfirst, Option.map_some]
  simp [Cursor.offset_past, Cursor.start]

end Match

/-- The groups are numbered in the order of the fields. -/
theorem lt_of_mem_groupNames {layout : List Piece} {groups : Nat}
    {e : String × Nat} (he : e ∈ (nodes groups layout).flatMap Node.groupNames) :
    groups < e.2 := by
  induction layout generalizing groups with
  | nil => cases he
  | cons piece layout ih =>
      cases piece with
      | text c => exact ih he
      | field letter =>
          rcases List.mem_cons.1 he with rfl | he
          · exact Nat.lt_succ_self groups
          · exact Nat.lt_of_succ_lt (ih he)

theorem lt_of_mem_marks {layout : List Piece} {groups start : Nat}
    {g : Nat × Span} (hg : g ∈ marks groups start layout) : groups < g.1 := by
  induction layout generalizing groups start with
  | nil => cases hg
  | cons piece layout ih =>
      cases piece with
      | text c => exact ih hg
      | field letter =>
          rcases List.mem_cons.1 hg with rfl | hg
          · exact Nat.lt_succ_self groups
          · exact Nat.lt_of_succ_lt (ih hg)

/-- By its name a group is found in the place of its field. -/
theorem find?_marks (letter : Char) (groups start : Nat)
    (layout : List Piece) :
    ((((nodes groups layout).flatMap Node.groupNames).find?
        (·.1 == String.singleton letter)).bind fun e =>
      ((marks groups start layout).reverse.find? (·.1 == e.2)).bind fun g =>
        some g.2) = place? letter start layout := by
  induction layout generalizing groups start with
  | nil => rfl
  | cons piece layout ih =>
      cases piece with
      | text c => exact ih groups (start + c.utf8Size)
      | field other =>
          have hnames : (nodes groups (.field other :: layout)).flatMap
              Node.groupNames = (String.singleton other, groups + 1)
                :: (nodes (groups + 1) layout).flatMap Node.groupNames := rfl
          have hnext := ih (groups + 1) (start + Stamp.places other)
          rw [hnames, marks, List.reverse_cons, place?]
          by_cases h : other = letter
          · subst h
            have hnone : (marks (groups + 1) (start + Stamp.places other)
                layout).reverse.find? (·.1 == groups + 1) = none := by
              rw [List.find?_eq_none]
              intro g hg
              have hlt := lt_of_mem_marks (List.mem_reverse.1 hg)
              simp only [beq_iff_eq]
              omega
            rw [List.find?_cons_of_pos (by simp), Option.bind_some,
              List.find?_append, hnone, if_pos rfl]
            simp
          · have hne : ¬ Piece.field other = .field letter := fun heq =>
              h (Piece.field.inj heq)
            rw [List.find?_cons_of_neg (by simp [h]), if_neg hne, Piece.width,
              ← hnext]
            -- what is found of the others has a number of its own
            cases hfound : ((nodes (groups + 1) layout).flatMap
                Node.groupNames).find? (·.1 == String.singleton letter) with
            | none => rfl
            | some e =>
                have hlt := lt_of_mem_groupNames (List.mem_of_find?_eq_some hfound)
                have hskip : ∀ span : Span,
                    [(groups + 1, span)].find? (·.1 == e.2) = none := by
                  simp
                  omega
                rw [Option.bind_some, Option.bind_some, List.find?_append,
                  hskip, Option.or_none]

/-- The groups of a layout lie where its fields are written. -/
theorem named?_described (anchored : Bool) (layout : List Piece) (span : Span)
    (letter : Char) :
    (described anchored layout).pattern.named?
        ⟨span, (marks 0 0 layout).reverse⟩ (String.singleton letter)
      = place? letter 0 layout := by
  have hnames : (described anchored layout).pattern.root.groupNames
      = (nodes 0 layout).flatMap Node.groupNames := by
    unfold described root
    rw [Node.groupNames_concat, List.flatMap_append]
    cases anchored <;> rfl
  rw [← find?_marks letter 0 0 layout]
  unfold Pattern.named?
  rw [hnames]
  rfl

-- =========================================================== the detector

/-- What a user's pattern describes is read, whatever else the detector
knows. -/
theorem described_time_is_read (d : Detector) (anchored : Bool)
    {layout : List Piece} (hlayout : IsLayout layout)
    (hplain : IsPlain layout)
    (hweight : (root anchored layout).weight ≤ maxWeight)
    {s : Stamp} (hs : s.IsValid) :
    ∃ d', (d.setPattern (spelling anchored layout)).value = .ok d'
      ∧ ∃ ts, (∀ t, Stamp.shown d.zone t = s ↔ t = ts)
        ∧ ∀ now, inRange now = true →
          (d'.detect (s.write layout) now).value.2
            = some ⟨⟨0, Text.width (s.write layout)⟩, some ts⟩ := by
  have hpattern := ofFields_spelling anchored hlayout hplain hweight
  let others := d.templates.filter (·.source.isNone)
  let d' := { d with templates := described anchored layout :: others }
  refine ⟨d', ?_, instant d.zone s.date s.clock,
    fun t => Stamp.shown_eq_iff hs, fun now hnow => ?_⟩
  · unfold Detector.setPattern
    rw [hpattern]
    rfl
  · have hreads := Stamp.reading?_write hs hlayout
      (rfl : (described anchored layout).kind = .fields)
      (find_described hs anchored layout)
      (fun letter _ => named?_described anchored layout _ letter)
      (if_pos hnow : localDate? d'.zone now = some _)
    have hsplit : d'.templates = [] ++ described anchored layout :: others :=
      rfl
    rw [Detector.detect_of_reading hsplit
      (fun u hu => absurd hu List.not_mem_nil) hreads]

/-- A layout with day and month after the time, and nothing between any
of its fields. -/
theorem packed_time_is_read :
    let layout : List Piece := [.field 'H', .field 'M', .field 'S',
      .field 'd', .field 'm', .field 'Y']
    let s : Stamp := ⟨⟨2024, 2, 29⟩, 1, 2, 3⟩
    spelling true layout = "^%H%M%S%d%m%Y"
      ∧ s.write layout = "01020329022024".toList
      ∧ ∃ d', ((Detector.builtin 3600).setPattern "^%H%M%S%d%m%Y").value
          = .ok d'
        ∧ ∃ ts, (∀ t, Stamp.shown 3600 t = s ↔ t = ts)
          ∧ ∀ now, inRange now = true →
            (d'.detect "01020329022024".toList now).value.2
              = some ⟨⟨0, 14⟩, some ts⟩ := by
  intro layout s
  have hs : s.IsValid :=
    ⟨⟨by decide, by decide, 29, by decide, by decide⟩, by decide, by decide,
      by decide, by decide, by decide⟩
  have hspelling : spelling true layout = "^%H%M%S%d%m%Y" := by decide +kernel
  have hwrite : s.write layout = "01020329022024".toList := by decide +kernel
  refine ⟨hspelling, hwrite, ?_⟩
  have hread := described_time_is_read (Detector.builtin 3600) true
    (show IsLayout layout by decide) (by simp [IsPlain, layout])
    (show (root true layout).weight ≤ maxWeight by decide +kernel) hs
  rw [hspelling, hwrite] at hread
  exact hread

end Gatewatch.Date
