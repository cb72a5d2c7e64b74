/-
The buffer of recent lines, and the matches in it.

# The trace

A filter forgets which lines its buffer holds: two of them may read the
same. So each line gets a number here, and a trace keeps the rows of the
buffer with their numbers, the rows that entered it, and for each match
that yielded an offence the rows it was found in (`Trace`). The filter
does not depend on the trace, and the lines of its buffer are the texts of
the rows (`Trace.Tells`).

# One match for a line

A row that shares a byte with a match is taken out (`not_mem_untouched`),
and what is out does not come back, as the rows stay a part of those that
entered, whose numbers grow. So no row of a later match is one that an
earlier match touched (`Trace.Sound.hit`). The room of the buffer may
change in between: to lose rows is all that it can do to them
(`Trace.Sound.shorten`).
-/
import Gatewatch.Proofs.Filter.Passing
import Gatewatch.Proofs.Net.Token

namespace Gatewatch.Filter

open Pattern (Span)

-- ================================================================ rows

/-- A line of the buffer, with its number among all lines. -/
structure Row where
  number : Nat
  text : List Char
deriving DecidableEq

/-- The last rows. -/
def lastRows (count : Nat) (rows : List Row) : List Row :=
  rows.drop (rows.length - count)

/-- The rows that a span of the joined text does not touch, where the
first one starts at byte `offset`. -/
def untouched (span : Span) (offset : Nat) : List Row → List Row
  | [] => []
  | row :: rest =>
    let stop := offset + Text.width row.text
    let others := untouched span (stop + 1) rest
    if span.start ≤ stop && offset < span.stop then others
    else row :: others

/-- Rows with their newlines, as the joined text has them in front of
another row. -/
def ended (rows : List Row) : List Char :=
  rows.flatMap fun row => row.text ++ ['\n']

/-- The byte of the joined text at which the row behind some rows
starts. -/
def startOf (rows : List Row) : Nat := Text.width (ended rows)

@[simp] theorem startOf_nil : startOf [] = 0 := rfl

@[simp] theorem startOf_cons (row : Row) (rest : List Row) :
    startOf (row :: rest) = Text.width row.text + 1 + startOf rest := by
  have hnewline : '\n'.utf8Size = 1 := by decide
  simp [startOf, ended, hnewline, Nat.add_assoc]

/-- The texts of the last rows are the last lines. -/
theorem map_text_lastRows (count : Nat) (rows : List Row) :
    (lastRows count rows).map Row.text
      = lastLines count (rows.map Row.text) := by
  unfold lastRows lastLines
  rw [List.map_drop, List.length_map]

/-- The last rows are some of the rows. -/
theorem lastRows_sublist (count : Nat) (rows : List Row) :
    (lastRows count rows).Sublist rows := List.drop_sublist ..

/-- There are no more last rows than were asked for. -/
theorem length_lastRows_le (count : Nat) (rows : List Row) :
    (lastRows count rows).length ≤ count := by
  unfold lastRows
  rw [List.length_drop]
  omega

/-- The texts of the rows that are not touched are what is left of the
lines. -/
theorem map_text_untouched (span : Span) (offset : Nat) (rows : List Row) :
    (untouched span offset rows).map Row.text
      = removeTouched span offset (rows.map Row.text) := by
  induction rows generalizing offset with
  | nil => rfl
  | cons row rest ih =>
      unfold untouched
      simp only [List.map_cons, removeTouched, ← ih]
      split <;> rfl

/-- The rows that are not touched are some of the rows. -/
theorem untouched_sublist (span : Span) (offset : Nat) (rows : List Row) :
    (untouched span offset rows).Sublist rows := by
  induction rows generalizing offset with
  | nil => exact List.Sublist.slnil
  | cons row rest ih =>
      unfold untouched
      dsimp only
      split
      case isTrue => exact (ih _).cons row
      case isFalse => exact (ih _).cons_cons row

-- ================================================================ hits

/-- A match that yielded an offence: the rows of the buffer that it was
found in, and its span in their joined text. -/
structure Hit where
  rows : List Row
  span : Span
deriving DecidableEq

/-- The match has a byte in common with the text of the row of a
number. -/
def Hit.Covers (h : Hit) (number : Nat) : Prop :=
  ∃ before text after, h.rows = before ++ ⟨number, text⟩ :: after
    ∧ ∃ byte, h.span.start ≤ byte ∧ byte < h.span.stop
      ∧ startOf before ≤ byte ∧ byte < startOf before + Text.width text

/-- A row that a match covers is one of its rows. -/
theorem Hit.Covers.mem {h : Hit} {number : Nat} (hc : h.Covers number) :
    ∃ row ∈ h.rows, row.number = number := by
  obtain ⟨before, text, after, hrows, -⟩ := hc
  exact ⟨⟨number, text⟩, by rw [hrows]; simp, rfl⟩

/-- A row with a byte in common with a span is not left. -/
theorem not_mem_untouched {span : Span} {rows : List Row}
    (hrows : rows.Pairwise (·.number < ·.number)) {number offset byte : Nat}
    {before after : List Row} {text : List Char}
    (hsplit : rows = before ++ ⟨number, text⟩ :: after)
    (hstart : span.start ≤ byte) (hstop : byte < span.stop)
    (hfirst : offset + startOf before ≤ byte)
    (hlast : byte < offset + startOf before + Text.width text) :
    ∀ row ∈ untouched span offset rows, row.number ≠ number := by
  induction rows generalizing offset before with
  | nil => nofun
  | cons row rest ih =>
      obtain ⟨hhead, hrest⟩ := List.pairwise_cons.1 hrows
      cases before with
      | nil =>
          obtain ⟨rfl, rfl⟩ := List.cons.inj hsplit
          have htouched : (decide (span.start ≤ offset + Text.width text)
              && decide (offset < span.stop)) = true := by
            rw [startOf_nil, Nat.add_zero] at hfirst hlast
            rw [Bool.and_eq_true, decide_eq_true_eq, decide_eq_true_eq]
            omega
          unfold untouched
          dsimp only
          rw [if_pos htouched]
          intro other hother
          exact Nat.ne_of_gt
            (hhead other ((untouched_sublist _ _ _).subset hother))
      | cons first before =>
          obtain ⟨rfl, hsplit'⟩ := List.cons.inj hsplit
          have hnext : ∀ other ∈
              untouched span (offset + Text.width row.text + 1) rest,
              other.number ≠ number :=
            ih hrest hsplit'
              (by rw [startOf_cons] at hfirst; omega)
              (by rw [startOf_cons] at hlast; omega)
          have hself : row.number ≠ number :=
            Nat.ne_of_lt (hhead ⟨number, text⟩ (by rw [hsplit']; simp))
          unfold untouched
          dsimp only
          split
          case isTrue => exact hnext
          case isFalse =>
            intro other hother
            rcases List.mem_cons.1 hother with rfl | hother
            · exact hself
            · exact hnext other hother

-- =========================================================== one line

/-- A line without its date. -/
def partOf (f : Filter) (line : String) (now : Int) : List Char :=
  match (f.detector.detect line.toList now).value.2 with
  | some d => cutOut d.span line.toList
  | none => line.toList

/-- The time of a line. -/
def timeOf (f : Filter) (line : String) (now : Int) : Option Int :=
  (f.detector.detect line.toList now).value.2.bind (·.time)

/-- What a line does. It is ignored; or it enters the buffer and nothing
comes of it, as there is no match or the line has no time; or it enters
the buffer, what its match touches is taken out, and it tells of an
offence for each address of the host. -/
theorem processLine_cases (f : Filter) (line : String) (now : Int)
    (names : Net.Resolver) :
    let part := f.partOf line now
    let result := (f.processLine line now names).value
    (f.patterns.ignores part = true
      ∧ result.1.buffer = f.buffer ∧ result.2 = [])
    ∨ (f.patterns.ignores part = false
      ∧ ((f.findIn part).2 = none ∨ f.timeOf line now = none)
      ∧ result.1.buffer = (f.findIn part).1 ∧ result.2 = [])
    ∨ (f.patterns.ignores part = false
      ∧ ∃ failure time, (f.findIn part).2 = some failure
        ∧ f.timeOf line now = some time
        ∧ result.1.buffer
          = removeTouched failure.span 0 (f.findIn part).1
        ∧ result.2 = (Net.Token.read failure.host f.useDns
            names).addresses.map fun source =>
              { source, time, lines := [line] }) := by
  unfold processLine partOf timeOf
  rw [Noted.value_bind]
  rcases (f.detector.detect line.toList now).value with ⟨detector, _ | d⟩
  · -- a line without a date has no time
    dsimp only
    split
    case isTrue hignored => exact .inl ⟨hignored, rfl, rfl⟩
    case isFalse hkept =>
      have hkept := Bool.eq_false_iff.2 hkept
      split <;> exact .inr (.inl ⟨hkept, .inr rfl, rfl, rfl⟩)
  · dsimp only
    split
    case isTrue hignored => exact .inl ⟨hignored, rfl, rfl⟩
    case isFalse hkept =>
      have hkept := Bool.eq_false_iff.2 hkept
      split
      case h_1 hnone => exact .inr (.inl ⟨hkept, .inl hnone, rfl, rfl⟩)
      case h_2 failure hfailure =>
        split
        case h_1 htime => exact .inr (.inl ⟨hkept, .inr htime, rfl, rfl⟩)
        case h_2 time htime =>
          refine .inr (.inr ⟨hkept, failure, time, hfailure, htime, rfl, ?_⟩)
          rw [Noted.value_bind, Noted.value_pure,
            Net.value_textToAddresses]

/-- The offences of a line come from a host token. -/
theorem source_of_processLine (f : Filter) (line : String) (now : Int)
    (names : Net.Resolver) :
    ∀ o ∈ (f.processLine line now names).value.2,
      ∃ host, o.source ∈ (Net.Token.read host f.useDns names).addresses := by
  intro o ho
  rcases f.processLine_cases line now names with
    ⟨-, -, hnone⟩ | ⟨-, -, -, hnone⟩ | ⟨-, failure, time, -, -, -, htold⟩
  · rw [hnone] at ho
    cases ho
  · rw [hnone] at ho
    cases ho
  · rw [htold] at ho
    obtain ⟨source, hsource, rfl⟩ := List.mem_map.1 ho
    exact ⟨failure.host, hsource⟩

-- ============================================================== traces

/-- What may be done: a line is processed, with what resolves host names
at that time, or the room of the buffer is set. -/
inductive Step where
  | line (text : String) (now : Int) (names : Net.Resolver)
  | maxLines (n : Nat)

/-- The filter after a step; room for no line is refused. -/
def step (f : Filter) : Step → Filter
  | .line text now names => (f.processLine text now names).value.1
  | .maxLines n => match (f.setMaxLines n).value with
    | .ok g => g
    | .error _ => f

/-- A filter with an account of its lines: how many were processed, those
that no ignore pattern matched, those in the buffer, and the matches that
yielded offences. -/
structure Trace where
  filter : Filter
  seen : Nat := 0
  kept : List Row := []
  rows : List Row := []
  hits : List Hit := []

namespace Trace

/-- The row that a line would enter the buffer as. -/
def rowOf (t : Trace) (text : String) (now : Int) : Row :=
  ⟨t.seen, t.filter.partOf text now⟩

/-- A row enters the buffer. -/
def enter (t : Trace) (row : Row) : Trace :=
  { t with
    seen := t.seen + 1
    kept := t.kept ++ [row]
    rows := lastRows t.filter.maxLines (t.rows ++ [row]) }

/-- A match takes out what it touches. It is noted when it yielded an
offence. -/
def hit (t : Trace) (span : Span) (offences : List Offence) : Trace :=
  { t with
    rows := untouched span 0 t.rows
    hits := if offences = [] then t.hits else t.hits ++ [⟨t.rows, span⟩] }

/-- The account after a line. -/
def line (t : Trace) (text : String) (now : Int) (names : Net.Resolver) :
    Trace :=
  let row := t.rowOf text now
  if t.filter.patterns.ignores row.text then { t with seen := t.seen + 1 }
  else
    match (t.filter.findIn row.text).2, t.filter.timeOf text now with
    | some failure, some _ =>
      (t.enter row).hit failure.span
        (t.filter.processLine text now names).value.2
    | _, _ => t.enter row

/-- The trace after a step. -/
def step (t : Trace) : Step → Trace
  | .line text now names =>
    { t.line text now names with
      filter := t.filter.step (.line text now names) }
  | .maxLines n => match (t.filter.setMaxLines n).value with
    | .ok filter => { t with filter, rows := lastRows n t.rows }
    | .error _ => t

/-- The trace after steps. -/
def run (t : Trace) (steps : List Step) : Trace := steps.foldl step t

/-- The trace of a filter whose buffer is empty. -/
def start (f : Filter) : Trace := { filter := { f with buffer := [] } }

section Lines

variable {t : Trace} {text : String} {now : Int} {names : Net.Resolver}

/-- A line that is ignored is only numbered. -/
theorem line_of_ignored
    (hignored : t.filter.patterns.ignores (t.filter.partOf text now) = true) :
    t.line text now names = { t with seen := t.seen + 1 } := if_pos hignored

/-- A line that nothing comes of enters. -/
theorem line_of_kept
    (hkept : t.filter.patterns.ignores (t.filter.partOf text now) = false)
    (hnone : (t.filter.findIn (t.filter.partOf text now)).2 = none
      ∨ t.filter.timeOf text now = none) :
    t.line text now names = t.enter (t.rowOf text now) := by
  unfold line rowOf
  dsimp only
  rw [hkept, if_neg Bool.false_ne_true]
  split
  case h_1 hfailure htime =>
    rcases hnone with hnone | hnone
    · cases hnone.symm.trans hfailure
    · cases hnone.symm.trans htime
  case h_2 => rfl

/-- A line with a match and a time enters, and the match takes out what it
touches. -/
theorem line_of_match
    (hkept : t.filter.patterns.ignores (t.filter.partOf text now) = false)
    {failure : Failure} {time : Int}
    (hfailure : (t.filter.findIn (t.filter.partOf text now)).2
      = some failure)
    (htime : t.filter.timeOf text now = some time) :
    t.line text now names = (t.enter (t.rowOf text now)).hit failure.span
      (t.filter.processLine text now names).value.2 := by
  unfold line rowOf
  dsimp only
  rw [hkept, if_neg Bool.false_ne_true, hfailure, htime]

end Lines

/-- The account of the rows is right. Those in the buffer are a part of
those that entered, whose numbers grow. A row that a match covered is not
in the buffer any more, and no two matches cover the same one. -/
structure Sound (t : Trace) : Prop where
  entered : t.rows.Sublist t.kept
  growing : t.kept.Pairwise (·.number < ·.number)
  below : ∀ row ∈ t.kept, row.number < t.seen
  gone : ∀ h ∈ t.hits, ∀ number, h.Covers number →
    number < t.seen ∧ ∀ row ∈ t.rows, row.number ≠ number
  apart : t.hits.Pairwise fun a b =>
    ∀ number, ¬ (a.Covers number ∧ b.Covers number)

namespace Sound

variable {t : Trace}

/-- Rows may leave the buffer, and numbers may be left out. -/
theorem shorten (h : t.Sound) {rows : List Row} (hrows : rows.Sublist t.rows)
    {seen : Nat} (hseen : t.seen ≤ seen) (filter : Filter) :
    Sound { t with filter, seen, rows } where
  entered := hrows.trans h.entered
  growing := h.growing
  below row hrow := Nat.lt_of_lt_of_le (h.below row hrow) hseen
  gone hit hhit number hcovers :=
    ⟨Nat.lt_of_lt_of_le (h.gone hit hhit number hcovers).1 hseen,
      fun row hrow =>
        (h.gone hit hhit number hcovers).2 row (hrows.subset hrow)⟩
  apart := h.apart

/-- A row that enters has a number above all others. -/
theorem enter (h : t.Sound) {row : Row} (hrow : row.number = t.seen) :
    (t.enter row).Sound where
  entered := (lastRows_sublist _ _).trans (h.entered.append_right [row])
  growing := by
    show (t.kept ++ [row]).Pairwise _
    rw [List.pairwise_append]
    refine ⟨h.growing, List.pairwise_singleton .., ?_⟩
    intro old hold new hnew
    rw [List.mem_singleton.1 hnew, hrow]
    exact h.below old hold
  below old hold := by
    show old.number < t.seen + 1
    rcases List.mem_append.1 hold with hold | hold
    · exact Nat.lt_succ_of_lt (h.below old hold)
    · rw [List.mem_singleton.1 hold, hrow]
      exact Nat.lt_succ_self _
  gone hit hhit number hcovers := by
    obtain ⟨hlt, hgone⟩ := h.gone hit hhit number hcovers
    refine ⟨Nat.lt_succ_of_lt hlt, fun old hold => ?_⟩
    rcases List.mem_append.1 ((lastRows_sublist _ _).subset hold)
      with hold | hold
    · exact hgone old hold
    · rw [List.mem_singleton.1 hold, hrow]
      exact Nat.ne_of_gt hlt
  apart := h.apart

/-- A match covers rows of the buffer only, so none that an earlier match
covered, and it leaves none that it covers. -/
theorem hit (h : t.Sound) (span : Span) (offences : List Offence) :
    (t.hit span offences).Sound := by
  have hshort := h.shorten (untouched_sublist span 0 t.rows)
    (Nat.le_refl _) t.filter
  by_cases hnone : offences = []
  · unfold Trace.hit
    rw [if_pos hnone]
    exact hshort
  · have hrows := h.growing.sublist h.entered
    unfold Trace.hit
    rw [if_neg hnone]
    exact {
      entered := hshort.entered
      growing := hshort.growing
      below := hshort.below
      gone := by
        intro hit hhit number hcovers
        rcases List.mem_append.1 hhit with hhit | hhit
        · exact hshort.gone hit hhit number hcovers
        · rw [List.mem_singleton.1 hhit] at hcovers
          obtain ⟨row, hrow, rfl⟩ := hcovers.mem
          refine ⟨h.below row (h.entered.subset hrow), ?_⟩
          obtain ⟨before, text, after, hsplit, byte, hstart, hstop, hfirst,
            hlast⟩ := hcovers
          exact not_mem_untouched hrows hsplit hstart hstop
            (by rwa [Nat.zero_add]) (by rwa [Nat.zero_add])
      apart := by
        rw [List.pairwise_append]
        refine ⟨h.apart, List.pairwise_singleton .., ?_⟩
        rintro old hold new hnew number ⟨hcovered, hcovers⟩
        rw [List.mem_singleton.1 hnew] at hcovers
        obtain ⟨row, hrow, hnumber⟩ := hcovers.mem
        exact (h.gone old hold number hcovered).2 row hrow hnumber }

/-- A line keeps the account right. -/
theorem line (h : t.Sound) (text : String) (now : Int)
    (names : Net.Resolver) : (t.line text now names).Sound := by
  unfold Trace.line
  dsimp only
  split
  case isTrue =>
    exact h.shorten (List.Sublist.refl _) (Nat.le_succ _) t.filter
  case isFalse =>
    have henter : (t.enter (t.rowOf text now)).Sound := h.enter rfl
    split
    case h_1 => exact henter.hit _ _
    case h_2 => exact henter

/-- Any step keeps the account right. -/
theorem step (h : t.Sound) (s : Step) : (t.step s).Sound := by
  cases s with
  | line text now names =>
      exact (h.line text now names).shorten (List.Sublist.refl _)
        (Nat.le_refl _) _
  | maxLines n =>
      unfold Trace.step
      dsimp only
      split
      case h_1 =>
        exact h.shorten (lastRows_sublist _ _) (Nat.le_refl _) _
      case h_2 => exact h

end Sound

/-- The rows tell the buffer, and there is room for them. -/
structure Tells (t : Trace) : Prop where
  buffer : t.filter.buffer = t.rows.map Row.text
  room : t.rows.length ≤ t.filter.maxLines

namespace Tells

variable {t : Trace}

/-- The texts of the rows with one more are the lines that a match is
looked for in. -/
theorem enter (h : t.Tells) (row : Row) :
    (t.enter row).rows.map Row.text = (t.filter.findIn row.text).1 := by
  show (lastRows _ (t.rows ++ [row])).map Row.text
    = lastLines _ (t.filter.buffer ++ [row.text])
  rw [map_text_lastRows, List.map_append, h.buffer]
  rfl

/-- The rows after a line are those of the buffer then. -/
theorem line (h : t.Tells) (text : String) (now : Int)
    (names : Net.Resolver) :
    (t.filter.processLine text now names).value.1.buffer
      = (t.line text now names).rows.map Row.text := by
  have henter := h.enter (t.rowOf text now)
  rcases t.filter.processLine_cases text now names with
    ⟨hignored, hbuffer, -⟩ | ⟨hkept, hnone, hbuffer, -⟩
      | ⟨hkept, failure, time, hfailure, htime, hbuffer, -⟩
  · rw [line_of_ignored hignored, hbuffer, h.buffer]
  · rw [line_of_kept hkept hnone, hbuffer, henter]
    rfl
  · rw [line_of_match hkept hfailure htime, hbuffer]
    show removeTouched failure.span 0 _
      = (untouched failure.span 0 (t.enter _).rows).map Row.text
    rw [map_text_untouched, henter]
    rfl

/-- A line leaves no more rows than there is room for. -/
theorem length_line_le (h : t.Tells) (text : String) (now : Int)
    (names : Net.Resolver) :
    (t.line text now names).rows.length ≤ t.filter.maxLines := by
  have henter : (t.enter (t.rowOf text now)).rows.length
      ≤ t.filter.maxLines := length_lastRows_le ..
  unfold Trace.line
  dsimp only
  split
  case isTrue => exact h.room
  case isFalse =>
    split
    case h_1 =>
      exact Nat.le_trans (untouched_sublist _ _ _).length_le henter
    case h_2 => exact henter

/-- Any step keeps the rows and the buffer in agreement. -/
theorem step (h : t.Tells) (s : Step) : (t.step s).Tells := by
  cases s with
  | line text now names =>
      refine ⟨h.line text now names, ?_⟩
      show (t.line text now names).rows.length
        ≤ (t.filter.processLine text now names).value.1.maxLines
      obtain ⟨detector, buffer, hframe⟩ :=
        t.filter.processLine_frame text now names
      rw [hframe]
      exact h.length_line_le text now names
  | maxLines n =>
      unfold Trace.step setMaxLines
      dsimp only
      split
      case h_1 g hg =>
        split at hg
        case isTrue => cases hg
        case isFalse =>
          cases hg
          refine ⟨?_, length_lastRows_le n t.rows⟩
          rw [map_text_lastRows, ← h.buffer]
      case h_2 => exact h

end Tells

/-- The trace goes along with the filter. -/
theorem filter_step (t : Trace) (s : Step) :
    (t.step s).filter = t.filter.step s := by
  cases s with
  | line text now names => rfl
  | maxLines n =>
      unfold Trace.step Filter.step
      dsimp only
      split <;> rfl

/-- Any run keeps the account right and the rows in agreement with the
buffer. -/
theorem Sound.run {t : Trace} (h : t.Sound) (htells : t.Tells)
    (steps : List Step) :
    (t.run steps).Sound ∧ (t.run steps).Tells
      ∧ (t.run steps).filter = steps.foldl Filter.step t.filter := by
  induction steps generalizing t with
  | nil => exact ⟨h, htells, rfl⟩
  | cons s rest ih =>
      have hrest := ih (h.step s) (htells.step s)
      rw [filter_step] at hrest
      exact hrest

/-- The account starts right. -/
theorem sound_start (f : Filter) : (start f).Sound where
  entered := List.Sublist.slnil
  growing := .nil
  below := nofun
  gone := nofun
  apart := .nil

/-- There is room for an empty buffer. -/
theorem tells_start (f : Filter) : (start f).Tells :=
  ⟨rfl, Nat.zero_le _⟩

/-- A line that yields an offence has a match, which is noted with the
rows that it was found in. -/
theorem hits_step_of_offence (t : Trace) {text : String} {now : Int}
    {names : Net.Resolver}
    (hoffence : (t.filter.processLine text now names).value.2 ≠ []) :
    ∃ failure, (t.filter.findIn (t.filter.partOf text now)).2 = some failure
      ∧ (t.step (.line text now names)).hits
        = t.hits ++ [⟨(t.enter (t.rowOf text now)).rows, failure.span⟩] := by
  rcases t.filter.processLine_cases text now names with
    ⟨-, -, hnone⟩ | ⟨-, -, -, hnone⟩
      | ⟨hkept, failure, time, hfailure, htime, -⟩
  · exact absurd hnone hoffence
  · exact absurd hnone hoffence
  · refine ⟨failure, hfailure, ?_⟩
    show (t.line text now names).hits = _
    rw [line_of_match hkept hfailure htime]
    exact if_neg hoffence

end Trace

/-- Whatever patterns a filter has, whatever lines it processes, whatever
host names resolve to by then, and however the room of its buffer is set
in between: there are never more lines in the buffer than there is room
for. They are lines without their dates that no ignore pattern matched, in
the order in which they were processed. Every line that yields offences
does so for a match in the lines that it joins, and no line has a byte in
common with two of those matches. -/
theorem no_line_counts_twice (f : Filter) (steps : List Step) :
    let t := (Trace.start f).run steps
    t.filter = steps.foldl step { f with buffer := [] }
      ∧ t.filter.buffer.length ≤ t.filter.maxLines
      ∧ t.filter.buffer = t.rows.map Row.text
      ∧ t.rows.Sublist t.kept
      ∧ t.kept.Pairwise (·.number < ·.number)
      ∧ (∀ number, t.hits.Pairwise fun a b =>
          ¬ (a.Covers number ∧ b.Covers number))
      ∧ ∀ text now names,
          (t.filter.processLine text now names).value.2 ≠ [] →
          ∃ failure,
            t.filter.patterns.findFailure
                (joinLines ((t.enter (t.rowOf text now)).rows.map Row.text))
              = some failure
            ∧ (t.step (.line text now names)).hits
              = t.hits
                ++ [⟨(t.enter (t.rowOf text now)).rows, failure.span⟩] := by
  intro t
  obtain ⟨hsound, htells, hfilter⟩ :=
    (Trace.sound_start f).run (Trace.tells_start f) steps
  refine ⟨hfilter, ?_, htells.buffer, hsound.entered, hsound.growing, ?_, ?_⟩
  · rw [htells.buffer, List.length_map]
    exact htells.room
  · exact fun number => hsound.apart.imp fun hapart => hapart number
  · intro text now names hoffence
    obtain ⟨failure, hfailure, hhits⟩ := t.hits_step_of_offence hoffence
    refine ⟨failure, ?_, hhits⟩
    rw [htells.enter]
    exact hfailure

end Gatewatch.Filter
