/-
What a match takes out of the buffer.

# Places

The lines of the buffer are joined by newlines. A line stands in the
joined text from where the lines before it and their newlines end, and it
takes the newline that follows it; the last one has none (`placeOf`). As
no line has a newline in it, a byte of the text is in the place of the
line whose number is the number of newlines before the byte
(`has_placeOf_iff`): the text alone tells where its lines are.

# Comparing ends

The bytes are not looked at one by one. A line goes when the part begins
no later than the newline behind the line and ends behind the line's first
byte. The last line has no newline to begin at, and an empty last line no
first byte; but a part that has a byte and lies in the text neither begins
nor ends behind the last line, so the comparison is right there too
(`apart_placeOf_iff`).
-/
import Gatewatch.Filter.Lines
import Mathlib.Data.List.Basic

namespace Gatewatch

open Pattern (Span)

-- ================================================================ cuts

namespace Text

/-- Behind a first part, a text is cut as if the part were not there. -/
theorem upTo_width_add_append (a b : List Char) (n : Nat) :
    upTo (width a + n) (a ++ b) = a ++ upTo n b := by
  induction a with
  | nil => rw [width_nil, Nat.zero_add]; rfl
  | cons c cs ih =>
      have hpos : 0 < c.utf8Size := c.utf8Size_pos
      obtain ⟨k, hk⟩ : ∃ k, width (c :: cs) + n = k + 1 :=
        ⟨c.utf8Size + width cs + n - 1, by rw [width_cons]; omega⟩
      have hrest : k + 1 - c.utf8Size = width cs + n := by
        rw [width_cons] at hk
        omega
      rw [hk, List.cons_append, upTo, hrest, ih, List.cons_append]

theorem beyond_width_add_append (a b : List Char) (n : Nat) :
    beyond (width a + n) (a ++ b) = beyond n b := by
  have hwhole := upTo_append_beyond (width a + n) (a ++ b)
  rw [upTo_width_add_append, List.append_assoc] at hwhole
  have hrest := List.append_cancel_left hwhole
  nth_rewrite 3 [← upTo_append_beyond n b] at hrest
  exact List.append_cancel_left hrest

/-- A cut within the first part does not see what is behind it. -/
theorem upTo_append_of_le {a : List Char} {n : Nat} (h : n ≤ width a)
    (b : List Char) : upTo n (a ++ b) = upTo n a := by
  induction a generalizing n with
  | nil =>
      obtain rfl : n = 0 := Nat.le_zero.1 h
      cases b <;> rfl
  | cons c cs ih =>
      cases n with
      | zero => rfl
      | succ n =>
          rw [width_cons] at h
          rw [List.cons_append, upTo, upTo, ih (by omega)]

/-- The first part of a text. -/
theorem between_zero_width (a b : List Char) :
    between (a ++ b) 0 (width a) = a := by
  have hall : beyond 0 (a ++ b) = a ++ b := beyond_width_append [] (a ++ b)
  unfold between
  rw [hall, Nat.sub_zero, upTo_width_append]

/-- A part behind a first part of the text. -/
theorem between_width_add_append (a b : List Char) (start stop : Nat) :
    between (a ++ b) (width a + start) (width a + stop)
      = between b start stop := by
  unfold between
  rw [beyond_width_add_append, Nat.add_sub_add_left]

end Text

-- =============================================================== spans

namespace Pattern.Span

/-- A byte of a span. -/
def Has (s : Span) (byte : Nat) : Prop := s.start ≤ byte ∧ byte < s.stop

/-- Spans without a byte in common. -/
def Apart (s t : Span) : Prop := ∀ byte, ¬ (s.Has byte ∧ t.Has byte)

/-- The later start of two spans that are apart is not before the earlier
end. -/
theorem apart_iff {s t : Span} :
    s.Apart t ↔ min s.stop t.stop ≤ max s.start t.start := by
  unfold Apart Has
  constructor
  · intro h
    have := h (max s.start t.start)
    omega
  · intro h byte hbyte
    omega

instance (s t : Span) : Decidable (s.Apart t) :=
  decidable_of_iff _ apart_iff.symm

end Pattern.Span

namespace Filter

-- ============================================================== places

/-- The byte of the joined text at which the line of a number starts:
behind the lines before it and their newlines. -/
def startAt (lines : List (List Char)) (i : Nat) : Nat :=
  Text.width ((lines.take i).flatMap fun line => line ++ ['\n'])

/-- Where the line of a number stands in the joined text, with the newline
that follows it: up to where the next line starts, or where the text
ends. -/
def placeOf (lines : List (List Char)) (i : Nat) : Span where
  start := startAt lines i
  stop := min (startAt lines (i + 1)) (Text.width (joinLines lines))

/-- The number of the line that a byte of a text belongs to, told by the
newlines before the byte. -/
def lineAt (text : List Char) (byte : Nat) : Nat :=
  (Text.upTo byte text).count '\n'

@[simp] theorem startAt_zero (lines : List (List Char)) :
    startAt lines 0 = 0 := rfl

theorem width_line_newline (line : List Char) :
    Text.width (line ++ ['\n']) = Text.width line + 1 := by
  have hnewline : '\n'.utf8Size = 1 := by decide
  rw [Text.width_append, Text.width_cons, hnewline, Text.width_nil]

@[simp] theorem startAt_cons_succ (line : List Char)
    (rest : List (List Char)) (i : Nat) :
    startAt (line :: rest) (i + 1)
      = Text.width line + 1 + startAt rest i := by
  unfold startAt
  rw [List.take_succ_cons, List.flatMap_cons, Text.width_append,
    width_line_newline]

/-- A line starts behind the newline of the line before it. -/
theorem startAt_succ {lines : List (List Char)} {i : Nat}
    (hi : i < lines.length) :
    startAt lines (i + 1) = startAt lines i + (Text.width lines[i] + 1) := by
  unfold startAt
  rw [List.take_succ_eq_append_getElem hi, List.flatMap_append,
    Text.width_append, List.flatMap_singleton, width_line_newline]

/-- A line in front of others comes with a newline. -/
theorem joinLines_cons_cons (line next : List Char)
    (rest : List (List Char)) :
    joinLines (line :: next :: rest)
      = (line ++ ['\n']) ++ joinLines (next :: rest) :=
  (List.append_assoc line ['\n'] _).symm

theorem width_joinLines_cons_cons (line next : List Char)
    (rest : List (List Char)) :
    Text.width (joinLines (line :: next :: rest))
      = Text.width line + 1 + Text.width (joinLines (next :: rest)) := by
  rw [joinLines_cons_cons, Text.width_append, width_line_newline]

/-- The first line stands at the start of the text. -/
theorem placeOf_cons_zero (line : List Char) (rest : List (List Char)) :
    placeOf (line :: rest) 0
      = ⟨0, if rest = [] then Text.width line else Text.width line + 1⟩ := by
  cases rest with
  | nil =>
      unfold placeOf joinLines
      rw [startAt_cons_succ, startAt_zero, startAt_zero, Nat.add_zero,
        Nat.min_eq_right (Nat.le_succ _), if_pos rfl]
  | cons next rest =>
      unfold placeOf
      rw [width_joinLines_cons_cons, startAt_cons_succ, startAt_zero,
        startAt_zero, Nat.add_zero, Nat.min_eq_left (Nat.le_add_right _ _),
        if_neg (List.cons_ne_nil _ _)]

/-- The lines behind the first one stand where they would without it, as
much further on as it takes with its newline. -/
theorem placeOf_cons_succ (line next : List Char)
    (rest : List (List Char)) (i : Nat) :
    placeOf (line :: next :: rest) (i + 1)
      = ⟨Text.width line + 1 + (placeOf (next :: rest) i).start,
          Text.width line + 1 + (placeOf (next :: rest) i).stop⟩ := by
  unfold placeOf
  rw [startAt_cons_succ, startAt_cons_succ, width_joinLines_cons_cons,
    Nat.add_min_add_left]

/-- What stands at the place of a line is the line, with its newline if
another line follows. -/
theorem text_placeOf (lines : List (List Char)) (i : Nat)
    (hi : i < lines.length) :
    (placeOf lines i).text (joinLines lines)
      = lines[i] ++ if i + 1 < lines.length then ['\n'] else [] := by
  induction lines generalizing i with
  | nil => cases hi
  | cons line rest ih =>
      cases i with
      | zero =>
          rw [placeOf_cons_zero]
          cases rest with
          | nil =>
              have hall := Text.between_zero_width line []
              rw [List.append_nil] at hall
              simpa [Span.text, joinLines] using hall
          | cons next rest =>
              have hfirst := Text.between_zero_width (line ++ ['\n'])
                (joinLines (next :: rest))
              rw [width_line_newline, ← joinLines_cons_cons] at hfirst
              simpa [Span.text] using hfirst
      | succ i =>
          cases rest with
          | nil => simp at hi
          | cons next rest =>
              have hrest := ih i (Nat.lt_of_succ_lt_succ hi)
              rw [placeOf_cons_succ, joinLines_cons_cons,
                ← width_line_newline]
              unfold Span.text at hrest ⊢
              rw [Text.between_width_add_append, hrest]
              simp

-- ============================================================ newlines

/-- A byte of the first line, its newline included, is behind no
newline. -/
theorem lineAt_append_of_le {line : List Char} (hline : '\n' ∉ line)
    (rest : List Char) {byte : Nat} (h : byte ≤ Text.width line) :
    lineAt (line ++ rest) byte = 0 := by
  have hfront : Text.upTo byte line <+: line :=
    ⟨_, Text.upTo_append_beyond byte line⟩
  unfold lineAt
  rw [Text.upTo_append_of_le h]
  exact List.count_eq_zero.2 fun hmem => hline (hfront.subset hmem)

/-- A byte behind the first line is behind one newline more than in the
rest. -/
theorem lineAt_append_newline {line : List Char} (hline : '\n' ∉ line)
    (rest : List Char) (byte : Nat) :
    lineAt ((line ++ ['\n']) ++ rest) (Text.width line + 1 + byte)
      = lineAt rest byte + 1 := by
  unfold lineAt
  rw [← width_line_newline, Text.upTo_width_add_append, List.count_append,
    List.count_append, List.count_eq_zero.2 hline, List.count_singleton_self,
    Nat.zero_add, Nat.add_comm]

/-- The place of a line has the bytes that belong to the line. -/
theorem has_placeOf_iff {lines : List (List Char)}
    (hfree : ∀ line ∈ lines, '\n' ∉ line) (i byte : Nat) :
    (placeOf lines i).Has byte
      ↔ byte < Text.width (joinLines lines)
        ∧ lineAt (joinLines lines) byte = i := by
  induction lines generalizing i byte with
  | nil =>
      show _ ∧ byte < min _ 0 ↔ byte < 0 ∧ _
      omega
  | cons line rest ih =>
      obtain ⟨hline, hrest⟩ := List.forall_mem_cons.1 hfree
      cases rest with
      | nil =>
          have hzero : byte ≤ Text.width line → lineAt line byte = 0 := by
            intro hle
            have hfirst := lineAt_append_of_le hline [] hle
            rwa [List.append_nil] at hfirst
          show (placeOf [line] i).Has byte
            ↔ byte < Text.width line ∧ lineAt line byte = i
          cases i with
          | zero =>
              rw [placeOf_cons_zero, if_pos rfl]
              show 0 ≤ byte ∧ byte < Text.width line ↔ _
              omega
          | succ i =>
              show startAt [line] (i + 1) ≤ byte
                ∧ byte < min _ (Text.width line) ↔ _
              rw [startAt_cons_succ]
              omega
      | cons next rest =>
          have hwidth := width_joinLines_cons_cons line next rest
          rcases Nat.lt_or_ge byte (Text.width line + 1) with hfirst | hbehind
          · -- the byte is in the place of the first line
            have hzero : lineAt (joinLines (line :: next :: rest)) byte = 0 :=
              lineAt_append_of_le hline _ (Nat.le_of_lt_succ hfirst)
            rw [hzero, hwidth]
            cases i with
            | zero =>
                rw [placeOf_cons_zero, if_neg (List.cons_ne_nil _ _)]
                show 0 ≤ byte ∧ byte < Text.width line + 1 ↔ _
                omega
            | succ i =>
                rw [placeOf_cons_succ]
                show Text.width line + 1 + _ ≤ byte ∧ _ ↔ _
                omega
          · obtain ⟨later, rfl⟩ := Nat.exists_eq_add_of_le hbehind
            rw [hwidth, joinLines_cons_cons, lineAt_append_newline hline]
            cases i with
            | zero =>
                rw [placeOf_cons_zero, if_neg (List.cons_ne_nil _ _)]
                show 0 ≤ _ ∧ _ < Text.width line + 1 ↔ _
                omega
            | succ i =>
                have hlater := ih hrest i later
                rw [placeOf_cons_succ]
                unfold Span.Has at hlater ⊢
                dsimp only
                omega

-- ============================================================ removing

/-- The comparison that decides about a line is right for a part that has
a byte and lies in the text. -/
theorem apart_placeOf_iff {lines : List (List Char)} {i : Nat}
    (hi : i < lines.length) {span : Span} (hsome : span.start < span.stop)
    (hinside : span.stop ≤ Text.width (joinLines lines)) :
    (placeOf lines i).Apart span
      ↔ ¬ (span.start ≤ startAt lines i + Text.width lines[i]
          ∧ startAt lines i < span.stop) := by
  have hnext := startAt_succ hi
  rw [Span.apart_iff]
  show min (min (startAt lines (i + 1)) _) _ ≤ max (startAt lines i) _ ↔ _
  omega

/-- The lines that are left, told by where each starts. -/
theorem removeTouched_eq_filter (span : Span) (lines : List (List Char))
    (offset : Nat) :
    removeTouched span offset lines
      = (lines.zipIdx.filter fun l => decide
          ¬ (span.start ≤ offset + startAt lines l.2 + Text.width l.1
            ∧ offset + startAt lines l.2 < span.stop)).map Prod.fst := by
  induction lines generalizing offset with
  | nil => rfl
  | cons line rest ih =>
      have hshift : ∀ i, offset + startAt (line :: rest) (i + 1)
          = offset + Text.width line + 1 + startAt rest i := by
        intro i
        rw [startAt_cons_succ]
        omega
      rw [List.zipIdx_cons, List.zipIdx_succ, List.filter_cons,
        List.filter_map]
      simp only [removeTouched, ih, Function.comp_def, hshift, startAt_zero,
        Nat.add_zero]
      by_cases htouched : span.start ≤ offset + Text.width line
          ∧ offset < span.stop
      · simp [htouched]
      · simp [htouched]

/-- Take any lines without newlines in them and any part of their joined
text that has a byte. At the place of each line stands the line, with its
newline if another line follows, and the places share the bytes of the
text out: a byte is in the place of the line whose number is the number
of newlines before it. When what the part touches is taken out, the lines
that are left are, in order, those whose places have no byte in common
with the part. -/
theorem lines_apart_are_left {lines : List (List Char)}
    (hfree : ∀ line ∈ lines, '\n' ∉ line) {span : Span}
    (hsome : span.start < span.stop)
    (hinside : span.stop ≤ Text.width (joinLines lines)) :
    (∀ i (hi : i < lines.length), (placeOf lines i).text (joinLines lines)
        = lines[i] ++ if i + 1 < lines.length then ['\n'] else [])
      ∧ (∀ i byte, (placeOf lines i).Has byte
        ↔ byte < Text.width (joinLines lines)
          ∧ lineAt (joinLines lines) byte = i)
      ∧ removeTouched span 0 lines
        = (lines.zipIdx.filter fun l =>
            decide ((placeOf lines l.2).Apart span)).map Prod.fst := by
  refine ⟨text_placeOf lines, has_placeOf_iff hfree, ?_⟩
  rw [removeTouched_eq_filter]
  refine congrArg _ (List.filter_congr fun l hl => ?_)
  obtain ⟨hi, hline⟩ := List.mem_zipIdx' hl
  rw [Nat.zero_add, hline, decide_eq_decide]
  exact (apart_placeOf_iff hi hsome hinside).symm

/-- Four lines, two of them empty, and a part from the newline of the
second line to that of the third. -/
theorem newlines_belong_to_lines :
    let lines := ["", "é", "", "b"].map String.toList
    let span : Span := ⟨3, 5⟩
    (∀ line ∈ lines, '\n' ∉ line) ∧ span.start < span.stop
      ∧ span.stop ≤ Text.width (joinLines lines)
      ∧ placeOf lines 2 = ⟨4, 5⟩
      ∧ removeTouched span 0 lines = ["", "b"].map String.toList
      ∧ removeTouched span 0 lines
        = (lines.zipIdx.filter fun l =>
            decide ((placeOf lines l.2).Apart span)).map Prod.fst := by
  intro lines span
  have hfree : ∀ line ∈ lines, '\n' ∉ line := by decide
  have hsome : span.start < span.stop := by decide
  have hinside : span.stop ≤ Text.width (joinLines lines) := by decide
  exact ⟨hfree, hsome, hinside, by decide, by decide,
    (lines_apart_are_left hfree hsome hinside).2.2⟩

end Filter

end Gatewatch
