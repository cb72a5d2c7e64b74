/-
Reading a log file from its end.

# What is passed over

A file that is opened from its end counts as read so far, to the byte. If
its first line is unfinished, though, the line changes as the file grows,
and the next read takes the file for another and starts anew. So nothing
is passed over then, and else all that was there (`lead`).

# What is told

A read tells the pieces between the line ends from where it starts, and
each begins where the one before ends (`cutFrom_append`). All but the
first therefore begin behind a line end, and the first one begins where
the file ended when it was opened: if that was within a line, what is
told of it is its rest, not the line (`wholes_cutFrom_iff`).
-/
import Gatewatch.Proofs.Filter.Reading

namespace Gatewatch.Filter

open Disk (Tree Stamp)

-- ============================================================== pieces

/-- Bytes of a file up to a line end, and the bytes in front of them. -/
structure Piece where
  before : List UInt8
  line : List UInt8
deriving DecidableEq

namespace Piece

/-- What is told of a piece. -/
def text (decoders : Text.Decoders) (charset : Text.Charset) (p : Piece) :
    String :=
  charset.decode (withoutReturn p.line) decoders

/-- A piece is a whole line when the file starts with it, or a line end
is in front of it. -/
def IsWhole (p : Piece) : Prop :=
  p.before = [] ∨ p.before.getLast? = some lineEnd

instance (p : Piece) : Decidable p.IsWhole :=
  inferInstanceAs (Decidable (_ ∨ _))

/-- A file has the piece at its place, and it is not empty. -/
def LiesIn (bytes : List UInt8) (p : Piece) : Prop :=
  p.line ≠ [] ∧ lineEnd ∉ p.line
    ∧ p.before ++ p.line ++ [lineEnd] <+: bytes

end Piece

/-- The pieces that lines are behind some bytes, the empty ones left
out. -/
def cutFrom (before : List UInt8) : List (List UInt8) → List Piece
  | [] => []
  | line :: rest =>
    let later := cutFrom (before ++ line ++ [lineEnd]) rest
    if line = [] then later else ⟨before, line⟩ :: later

/-- More lines are cut behind the lines before. -/
theorem cutFrom_append (before : List UInt8) (a b : List (List UInt8)) :
    cutFrom before (a ++ b)
      = cutFrom before a ++ cutFrom (before ++ joined a) b := by
  induction a generalizing before with
  | nil => simp [cutFrom]
  | cons line rest ih =>
      have hjoined : before ++ line ++ [lineEnd] ++ joined rest
          = before ++ joined (line :: rest) := by simp
      simp only [List.cons_append, cutFrom, ih, hjoined]
      split <;> rfl

/-- What is told of the pieces is what is told of the lines. -/
theorem map_text_cutFrom (decoders : Text.Decoders)
    (charset : Text.Charset) (before : List UInt8)
    (lines : List (List UInt8)) :
    (cutFrom before lines).map (·.text decoders charset)
      = textsOf decoders charset lines := by
  induction lines generalizing before with
  | nil => rfl
  | cons line rest ih =>
      unfold cutFrom
      dsimp only
      split
      case isTrue hempty =>
        subst hempty
        exact ih _
      case isFalse hline =>
        have hkept : (!line.isEmpty) = true := by simpa using hline
        rw [List.map_cons, ih]
        unfold textsOf
        rw [List.filter_cons, if_pos hkept]
        rfl

/-- Pieces lie where they were cut. -/
theorem liesIn_cutFrom {before bytes : List UInt8}
    {lines : List (List UInt8)} (hwhole : Whole lines)
    (hfront : before ++ joined lines <+: bytes) :
    ∀ p ∈ cutFrom before lines, p.LiesIn bytes := by
  induction lines generalizing before with
  | nil => nofun
  | cons line rest ih =>
      have hjoined : before ++ joined (line :: rest)
          = before ++ line ++ [lineEnd] ++ joined rest := by simp
      rw [hjoined] at hfront
      have hrest := ih (fun l hl => hwhole l (List.mem_cons_of_mem _ hl))
        hfront
      unfold cutFrom
      dsimp only
      split
      case isTrue => exact hrest
      case isFalse hline =>
        rintro p hp
        rcases List.mem_cons.1 hp with rfl | hp
        · exact ⟨hline, hwhole line List.mem_cons_self,
            (List.prefix_append ..).trans hfront⟩
        · exact hrest p hp

/-- Behind a line end all pieces are whole lines. -/
theorem wholes_cutFrom {before : List UInt8}
    (hbefore : before = [] ∨ before.getLast? = some lineEnd)
    (lines : List (List UInt8)) :
    ∀ p ∈ cutFrom before lines, p.IsWhole := by
  induction lines generalizing before with
  | nil => nofun
  | cons line rest ih =>
      have hrest : ∀ p ∈ cutFrom (before ++ line ++ [lineEnd]) rest,
          p.IsWhole := ih (.inr List.getLast?_concat)
      unfold cutFrom
      dsimp only
      split
      case isTrue => exact hrest
      case isFalse =>
        rintro p hp
        rcases List.mem_cons.1 hp with rfl | hp
        · exact hbefore
        · exact hrest p hp

/-- All pieces are whole lines unless the first line is not empty and
begins within a line. -/
theorem wholes_cutFrom_iff (before : List UInt8)
    (lines : List (List UInt8)) :
    (∀ p ∈ cutFrom before lines, p.IsWhole)
      ↔ ((before = [] ∨ before.getLast? = some lineEnd)
        ∨ ∀ line ∈ lines.head?, line = []) := by
  constructor
  · intro h
    cases lines with
    | nil => exact .inr nofun
    | cons line rest =>
        by_cases hline : line = []
        · exact .inr (by simpa using hline)
        · left
          unfold cutFrom at h
          rw [if_neg hline] at h
          exact h ⟨before, line⟩ List.mem_cons_self
  · rintro (hbefore | hempty)
    · exact wholes_cutFrom hbefore lines
    · cases lines with
      | nil => nofun
      | cons line rest =>
          obtain rfl : line = [] := hempty line rfl
          exact wholes_cutFrom (.inr List.getLast?_concat) rest

-- ========================================================= what is ahead

namespace Reading

/-- A move that does not replace the file. -/
def Move.Grows : Move → Prop
  | .append _ => True
  | .replace _ _ => False
  | .read _ => True

/-- The pieces that a read tells. -/
def ahead (r : Reading) : List Piece :=
  cutFrom (r.bytes.take r.renewed.position)
    (completeLines (r.bytes.drop r.renewed.position))

/-- The pieces that the reads of a run tell. -/
def pieces : Reading → List Move → List Piece
  | _, [] => []
  | r, .read files :: rest =>
    r.ahead ++ (r.move (.read files)).pieces rest
  | r, m :: rest => (r.move m).pieces rest

end Reading

/-- What is passed over of a file that is opened from its end. -/
def lead (begun : List UInt8) : List UInt8 :=
  if lineEnd ∈ begun then begun else []

/-- A file ended within a line that was not its first when it was opened,
and the line was finished with a byte at least. -/
def Severed (begun bytes : List UInt8) : Prop :=
  lineEnd ∈ begun ∧ begun.getLast? ≠ some lineEnd
    ∧ ∃ line after, line ≠ [] ∧ lineEnd ∉ line
      ∧ bytes = begun ++ line ++ lineEnd :: after

/-- The pieces behind what is passed over are whole lines unless a line
was severed. -/
theorem wholes_lead_iff {begun bytes : List UInt8}
    (hgrown : begun <+: bytes) :
    (∀ p ∈ cutFrom (lead begun)
        (completeLines (bytes.drop (lead begun).length)), p.IsWhole)
      ↔ ¬ Severed begun bytes := by
  rw [wholes_cutFrom_iff]
  unfold lead
  split
  case isFalse hnone =>
    exact ⟨fun _ hsevered => hnone hsevered.1, fun _ => .inl (.inl rfl)⟩
  case isTrue hend =>
    obtain ⟨more, rfl⟩ := hgrown
    rw [List.drop_left]
    have hne : begun ≠ [] := List.ne_nil_of_mem hend
    obtain ⟨hwhole, rest, hmore, -⟩ := completeLines_spec more
    constructor
    · rintro hfirst ⟨-, hlast, line, after, hline, hfree, hbytes⟩
      have hcut : completeLines more = line :: completeLines after := by
        have heq : more = joined [line] ++ after := by
          rw [List.append_assoc, List.append_right_inj] at hbytes
          simpa using hbytes
        rw [heq, completeLines_joined (by simpa [Whole] using hfree)]
        rfl
      rw [hcut] at hfirst
      rcases hfirst with (hnil | hlast') | hempty
      · exact hne hnil
      · exact hlast hlast'
      · exact hline (hempty line rfl)
    · intro hsevered
      by_cases hlast : begun.getLast? = some lineEnd
      · exact .inl (.inr hlast)
      · right
        intro line hhead
        by_contra hline
        refine hsevered ⟨hend, hlast, line, ?_⟩
        obtain ⟨others, hothers⟩ := List.head?_eq_some_iff.1 hhead
        refine ⟨joined others ++ rest, hline, hwhole line ?_, ?_⟩
        · rw [hothers]
          exact List.mem_cons_self
        · rw [hothers] at hmore
          rw [List.append_assoc, List.append_right_inj]
          simpa using hmore

-- ============================================================= tailing

namespace Reading

/-- The reader stands behind what was passed over and some complete
lines. -/
structure Behind (begun : List UInt8) (r : Reading)
    (lines : List (List UInt8)) : Prop where
  position : r.file.position = (lead begun).length + spanOf lines
  identity : lineEnd ∈ lead begun ++ joined lines →
    r.file.identity = ⟨r.node, firstLine r.bytes⟩

/-- The reader stands within the first line, where the file ended when it
was opened. -/
structure Within (begun : List UInt8) (r : Reading)
    (lines : List (List UInt8)) : Prop where
  unfinished : lineEnd ∉ begun
  nothing : lines = []
  position : r.file.position = begun.length
  identity : r.file.identity = ⟨r.node, begun⟩

/-- A file that was opened from its end only grew since, and lines were
told of it. -/
structure Tailed (path : String) (charset : Text.Charset)
    (begun : List UInt8) (r : Reading) (lines : List (List UInt8)) :
    Prop where
  names : r.file.path = path
  decodes : r.file.charset = charset
  grown : begun <+: r.bytes
  whole : Whole lines
  front : lead begun ++ joined lines <+: r.bytes
  stands : r.Behind begun lines ∨ r.Within begun lines

variable {path : String} {charset : Text.Charset} {begun : List UInt8}
  {r : Reading} {lines : List (List UInt8)}

/-- Growth changes nothing of what was told. -/
theorem Tailed.append (h : r.Tailed path charset begun lines)
    (more : List UInt8) :
    (r.move (.append more)).Tailed path charset begun lines where
  names := h.names
  decodes := h.decodes
  grown := h.grown.trans (List.prefix_append ..)
  whole := h.whole
  front := h.front.trans (List.prefix_append ..)
  stands := by
    refine h.stands.imp (fun hbehind => ⟨hbehind.position, fun hend => ?_⟩)
      fun hwithin =>
        ⟨hwithin.unfinished, hwithin.nothing, hwithin.position,
          hwithin.identity⟩
    show r.file.identity = ⟨r.node, firstLine (r.bytes ++ more)⟩
    rw [firstLine_append (h.front.subset hend)]
    exact hbehind.identity hend

/-- What counts as passed over without a line end is nothing. -/
theorem lead_append_joined_eq_nil
    (hnone : lineEnd ∉ lead begun ++ joined lines) :
    lead begun = [] ∧ lines = [] := by
  unfold lead at hnone ⊢
  split at hnone
  case isTrue hend => exact absurd (List.mem_append_left _ hend) hnone
  case isFalse hfree =>
    refine ⟨if_neg hfree, ?_⟩
    cases lines with
    | nil => rfl
    | cons line rest => simp at hnone

/-- A read starts behind the lines that were told. -/
theorem Behind.start (h : r.Behind begun lines)
    (hfront : lead begun ++ joined lines <+: r.bytes) :
    r.renewed.position = (lead begun).length + spanOf lines := by
  unfold renewed LogFile.renew
  split
  case isFalse => exact h.position
  case isTrue hreplaced =>
    by_cases hend : lineEnd ∈ lead begun ++ joined lines
    · have hlength := hfront.length_le
      rw [List.length_append, length_joined, ← h.position] at hlength
      have hdiff := (r.file.isReplaced_iff _ _).1 hreplaced
      rw [h.identity hend] at hdiff
      rcases hdiff with hdiff | hdiff | hdiff
      · exact absurd rfl hdiff
      · exact absurd rfl hdiff
      · omega
    · obtain ⟨hlead, hlines⟩ := lead_append_joined_eq_nil hend
      rw [hlead, hlines]
      rfl

/-- A read starts anew when the first line went on. -/
theorem Within.start (h : r.Within begun lines) (hgrown : begun <+: r.bytes) :
    r.renewed.position = 0 ∨ (r.renewed = r.file ∧ r.bytes = begun) := by
  obtain ⟨more, hmore⟩ := hgrown
  have hreplaced : r.file.isReplaced ⟨r.node, firstLine r.bytes⟩
      r.bytes.length = true ↔ more ≠ [] := by
    rw [LogFile.isReplaced_iff, h.identity, h.position, ← hmore,
      firstLine_append_of_not_mem h.unfinished]
    cases more with
    | nil => simp [firstLine]
    | cons b more => simp [firstLine_ne_nil]
  unfold renewed LogFile.renew
  by_cases hmoved : more = []
  · right
    rw [hmoved, List.append_nil] at hmore
    exact ⟨if_neg fun h => hreplaced.1 h hmoved, hmore.symm⟩
  · left
    rw [if_pos (hreplaced.2 hmoved)]

/-- A read starts behind the lines that were told, unless the file is as
it was opened. -/
theorem Tailed.start (h : r.Tailed path charset begun lines) :
    r.renewed.position = (lead begun).length + spanOf lines
      ∨ (r.renewed = r.file ∧ r.bytes = begun ∧ r.Within begun lines) := by
  rcases h.stands with hbehind | hwithin
  · exact .inl (hbehind.start h.front)
  · rcases hwithin.start h.grown with hnew | ⟨hfile, hbytes⟩
    · left
      rw [hnew, hwithin.nothing,
        show lead begun = [] from if_neg hwithin.unfinished]
      rfl
    · exact .inr ⟨hfile, hbytes, hwithin⟩

/-- What is ahead are the complete lines behind those that were told. -/
theorem Tailed.ahead (h : r.Tailed path charset begun lines) :
    ∃ more, completeLines (r.bytes.drop r.renewed.position) = more
      ∧ r.ahead = cutFrom (lead begun ++ joined lines) more
      ∧ completeLines (r.bytes.drop (lead begun).length)
        = lines ++ more := by
  rcases h.start with hposition | ⟨hfile, hbegun, hwithin⟩
  · obtain ⟨rest, hbytes⟩ := h.front
    have hlength : r.renewed.position
        = (lead begun ++ joined lines).length := by
      rw [hposition, List.length_append, length_joined]
    refine ⟨completeLines rest, ?_, ?_, ?_⟩
    · rw [hlength, ← hbytes, List.drop_left]
    · unfold Reading.ahead
      rw [hlength, ← hbytes, List.take_left, List.drop_left]
    · rw [← hbytes, List.append_assoc, List.drop_left,
        completeLines_joined h.whole]
  · have hnone : completeLines (r.bytes.drop r.renewed.position) = [] := by
      rw [hfile, hwithin.position, hbegun, List.drop_length]
      rfl
    refine ⟨[], hnone, ?_, ?_⟩
    · unfold Reading.ahead
      rw [hnone]
      rfl
    · rw [show lead begun = [] from if_neg hwithin.unfinished, hbegun,
        hwithin.nothing]
      exact completeLines_of_not_mem hwithin.unfinished

/-- A read tells the pieces ahead, and the account has the lines of them
then. -/
theorem Tailed.read {files : Tree}
    (h : r.Tailed path charset begun lines)
    (hallow : r.Allows path (.read files)) :
    ∃ file, (r.file.readLines files r.decoders).value
          = .ok (file, r.ahead.map (·.text r.decoders charset))
      ∧ ∃ lines', (r.move (.read files)).Tailed path charset begun lines'
        ∧ lines' = completeLines (r.bytes.drop (lead begun).length)
        ∧ cutFrom (lead begun) lines'
          = cutFrom (lead begun) lines ++ r.ahead := by
  obtain ⟨more, hmore, hahead, hall⟩ := h.ahead
  obtain ⟨warned, hread⟩ := value_read h.names hallow
  have hdecodes : r.renewed.charset = charset :=
    (r.file.charset_renew _ _).trans h.decodes
  have htexts : r.ahead.map (·.text r.decoders charset)
      = textsOf r.decoders charset more := by
    rw [hahead, map_text_cutFrom]
  rw [hmore, hdecodes, ← htexts] at hread
  obtain ⟨hwhole, rest, hrest, -⟩ :=
    completeLines_spec (r.bytes.drop (lead begun).length)
  rw [hall] at hwhole hrest
  have hlead : lead begun <+: r.bytes :=
    (List.prefix_append ..).trans h.front
  refine ⟨_, hread, lines ++ more, ?_, hall.symm, ?_⟩
  · rw [move_read_of_ok hread]
    exact {
      names := (r.file.path_renew _ _).trans h.names
      decodes := hdecodes
      grown := h.grown
      whole := hwhole
      front := by
        refine ⟨rest, ?_⟩
        show lead begun ++ joined (lines ++ more) ++ rest = r.bytes
        rw [List.append_assoc, ← hrest]
        exact List.prefix_iff_eq_append.1 hlead
      stands := by
        rcases h.start with hposition | ⟨hsame, hbegun, hwithin⟩
        · left
          refine ⟨?_, fun _ => r.file.identity_renew _ _⟩
          show r.renewed.position + spanOf more = _
          rw [spanOf_append, ← Nat.add_assoc, hposition]
        · right
          have hnone : more = [] := by
            rw [← hmore, hsame, hwithin.position, hbegun, List.drop_length]
            rfl
          rw [hnone, hsame, hwithin.nothing]
          exact ⟨hwithin.unfinished, rfl, hwithin.position,
            hwithin.identity⟩ }
  · rw [cutFrom_append, hahead]

/-- Nothing was told of a file that was just opened from its end. -/
theorem Tailed.ofOpened (path : String) (decoders : Text.Decoders)
    (charset : Text.Charset) (n : Nat) (begun : List UInt8) :
    Tailed path charset begun
      { file := { path, tail := true, position := begun.length
                  identity := ⟨n, firstLine begun⟩, charset }
        decoders, node := n, bytes := begun } [] where
  names := rfl
  decodes := rfl
  grown := List.prefix_rfl
  whole := nofun
  front := by
    unfold lead
    split
    case isTrue => simp
    case isFalse => exact List.nil_prefix
  stands := by
    by_cases hend : lineEnd ∈ begun
    · left
      refine ⟨?_, fun _ => rfl⟩
      show begun.length = (lead begun).length + 0
      rw [show lead begun = begun from if_pos hend, Nat.add_zero]
    · right
      refine ⟨hend, rfl, rfl, ?_⟩
      have hfirst := firstLine_append_of_not_mem hend []
      simp only [firstLine, List.append_nil] at hfirst
      show Identity.mk n (firstLine begun) = _
      rw [hfirst]

/-- What the reads of a run tell are the pieces of the lines that it
adds. -/
theorem Tailed.run (h : r.Tailed path charset begun lines)
    {moves : List Move} (hgrows : ∀ m ∈ moves, m.Grows)
    (hallow : r.AllowsAll path moves) :
    ∃ lines', (r.run moves).Tailed path charset begun lines'
      ∧ cutFrom (lead begun) lines'
        = cutFrom (lead begun) lines ++ r.pieces moves
      ∧ (r.run moves).told
        = r.told ++ (r.pieces moves).map (·.text r.decoders charset) := by
  induction moves generalizing r lines with
  | nil => exact ⟨lines, h, by simp [pieces], by simp [pieces, run]⟩
  | cons m rest ih =>
      have hrest : ∀ m ∈ rest, m.Grows :=
        fun m hm => hgrows m (List.mem_cons_of_mem _ hm)
      cases m with
      | append more => exact ih (h.append more) hrest hallow.2
      | replace node bytes => exact (hgrows _ List.mem_cons_self).elim
      | read files =>
          obtain ⟨file, hread, lines', hlines', -, hcut⟩ :=
            h.read hallow.1
          have htold : (r.move (.read files)).told
              = r.told ++ r.ahead.map (·.text r.decoders charset) := by
            rw [move_read_of_ok hread]
          obtain ⟨lines'', hlines'', hcut', htold'⟩ :=
            ih hlines' hrest hallow.2
          refine ⟨lines'', hlines'', ?_, ?_⟩
          · rw [hcut', hcut, List.append_assoc]
            rfl
          · show ((r.move (.read files)).run rest).told
              = r.told ++ (r.ahead ++ _).map _
            rw [htold', htold, decoders_move, List.map_append,
              List.append_assoc]

end Reading

/-- A file that can be read is opened from its end. -/
theorem LogFile.openAt_end {files : Tree} {path : String} {n : Nat}
    {bytes : List UInt8} {stamp : Stamp}
    (h : files.Holds path n bytes stamp) :
    openAt files path true
      = .ok { path, tail := true, position := bytes.length
              identity := ⟨n, firstLine bytes⟩ } := by
  unfold openAt
  rw [look_of_holds h]
  rfl

/-- Whatever is appended to a file that was opened from its end, every
read succeeds. What the reads tell are the texts of pieces of the file up
to a line end, in order and without a gap, from the place on where the
file ended when it was opened, or from its start if there was no line end
in it then. All pieces are whole lines unless the file ended within a line
then that was not its first, and that line was finished with a byte at
least: its rest is told as if it were a line. -/
theorem tailed_lines_are_whole_iff {files : Tree} {path : String} {n : Nat}
    {begun : List UInt8} {stamp : Stamp}
    (hfile : files.Holds path n begun stamp) (decoders : Text.Decoders)
    (charset : Text.Charset) :
    ∃ f, LogFile.openAt files path true = .ok f
      ∧ ∀ moves : List Reading.Move,
        let start : Reading :=
          { file := f.setCharset charset, decoders, node := n
            bytes := begun }
        let r := start.run moves
        (∀ m ∈ moves, m.Grows) → start.AllowsAll path moves →
        ∀ files, r.Allows path (.read files) →
          ∃ file texts, (r.file.readLines files decoders).value
              = .ok (file, texts)
            ∧ r.told = (start.pieces moves).map (·.text decoders charset)
            ∧ texts = r.ahead.map (·.text decoders charset)
            ∧ let pieces := start.pieces moves ++ r.ahead
              pieces = cutFrom (lead begun)
                  (completeLines (r.bytes.drop (lead begun).length))
              ∧ (∀ p ∈ pieces, p.LiesIn r.bytes)
              ∧ ((∀ p ∈ pieces, p.IsWhole) ↔ ¬ Severed begun r.bytes) := by
  refine ⟨_, LogFile.openAt_end hfile, ?_⟩
  intro moves start r hgrows hallow files' hlast
  have hstart : start.Tailed path charset begun [] := .ofOpened ..
  obtain ⟨lines, hrun, hcut, htold⟩ := hstart.run hgrows hallow
  obtain ⟨file, hread, lines', hlines', hall, hcut'⟩ := hrun.read hlast
  have hpieces : start.pieces moves ++ r.ahead
      = cutFrom (lead begun) lines' := by
    rw [hcut', hcut]
    rfl
  obtain ⟨-, hbytes, -⟩ := r.move_read files'
  rw [show (start.run moves).decoders = decoders from
    start.decoders_run moves] at hread
  refine ⟨file, _, hread, htold, rfl, ?_, ?_, ?_⟩
  · rw [hpieces, hall]
  · rw [hpieces, ← hbytes]
    exact liesIn_cutFrom hlines'.whole hlines'.front
  · rw [hpieces, hall]
    exact wholes_lead_iff hrun.grown

/-- A log whose first line is unfinished. -/
def shortLog : Tree :=
  (Tree.initial.write "a.log" [98]).toOption.getD Tree.initial

/-- The same log with its line completed. -/
def fullLog : Tree :=
  (shortLog.append "a.log" [99, 10]).toOption.getD Tree.initial

theorem shortLog_holds :
    shortLog.Holds "a.log" 10 [98] (.moment 12) := by
  unfold Tree.Holds
  decide +kernel

theorem fullLog_holds :
    fullLog.Holds "a.log" 10 [98, 99, 10] (.moment 13) := by
  unfold Tree.Holds
  decide +kernel

/-- A first line that was unfinished when the log was opened is told as a
whole. -/
theorem unfinished_first_line_is_told :
    shortLog.Holds "a.log" 10 [98] (.moment 12)
      ∧ ∃ f, LogFile.openAt shortLog "a.log" true = .ok f
      ∧ let start : Reading :=
          { file := f.setCharset .utf8, decoders := Text.asciiOnly
            node := 10, bytes := [98] }
        let moves : List Reading.Move := [.read shortLog, .append [99, 10]]
        (∀ m ∈ moves, m.Grows) ∧ start.AllowsAll "a.log" moves
          ∧ (start.run moves).Allows "a.log" (.read fullLog)
          ∧ ∃ file texts,
            ((start.run moves).file.readLines fullLog).value
                = .ok (file, texts)
              ∧ (start.run moves).told ++ texts = ["bc"]
              ∧ ∀ p ∈ start.pieces moves ++ (start.run moves).ahead,
                  p.IsWhole := by
  obtain ⟨f, hopen, hreads⟩ :=
    tailed_lines_are_whole_iff shortLog_holds Text.asciiOnly .utf8
  have hf := (LogFile.openAt_end shortLog_holds).symm.trans hopen
  refine ⟨shortLog_holds, f, hopen, ?_⟩
  obtain rfl := Except.ok.inj hf
  intro start moves
  have hgrows : ∀ m ∈ moves, m.Grows := by
    intro m hm
    rcases List.mem_cons.1 hm with rfl | hm
    · trivial
    · rw [List.mem_singleton.1 hm]
      trivial
  obtain ⟨hnode, hbytes, hreplaced⟩ := start.move_read shortLog
  have hall : start.AllowsAll "a.log" moves :=
    ⟨⟨⟨_, shortLog_holds⟩, nofun⟩, trivial, trivial⟩
  have hfull : (start.run moves).bytes = [98, 99, 10] := by
    show (start.move (.read shortLog)).bytes ++ [99, 10] = _
    rw [hbytes]
    rfl
  have hlast : (start.run moves).Allows "a.log" (.read fullLog) := by
    refine ⟨⟨.moment 13, ?_⟩, fun h => absurd (hreplaced h) nofun⟩
    rw [hfull, show (start.run moves).node = 10 from hnode]
    exact fullLog_holds
  obtain ⟨file, texts, hvalue, htold, htexts, hpieces, -, hwhole⟩ :=
    hreads moves hgrows hall fullLog hlast
  refine ⟨hgrows, hall, hlast, file, texts, hvalue, ?_, hwhole.2 ?_⟩
  · rw [htold, htexts, ← List.map_append, hpieces, hfull]
    decide +kernel
  · exact fun hsevered => absurd hsevered.1 (by decide)

/-- A log of a line and a half. -/
def begunLog : Tree :=
  (Tree.initial.write "a.log" [97, 10, 98]).toOption.getD Tree.initial

/-- The same log with its second line completed by a letter. -/
def mendedLog : Tree :=
  (begunLog.append "a.log" [99, 10]).toOption.getD Tree.initial

theorem begunLog_holds :
    begunLog.Holds "a.log" 10 [97, 10, 98] (.moment 12) := by
  unfold Tree.Holds
  decide +kernel

/-- The second line was begun when the log was opened from its end. When
it is completed, its rest is told, which is no line of the log. -/
theorem rest_of_severed_line_is_told :
    begunLog.Holds "a.log" 10 [97, 10, 98] (.moment 12)
      ∧ mendedLog.Holds "a.log" 10 [97, 10, 98, 99, 10] (.moment 13)
      ∧ (∃ f, LogFile.openAt begunLog "a.log" true = .ok f
        ∧ (f.readLines mendedLog).value.toOption.map Prod.snd = some ["c"])
      ∧ textsIn Text.asciiOnly .utf8 [97, 10, 98, 99, 10] = ["a", "bc"] := by
  refine ⟨begunLog_holds, ?_, ?_, by decide +kernel⟩
  · unfold Tree.Holds
    decide +kernel
  · exact ⟨_, LogFile.openAt_end begunLog_holds, by decide +kernel⟩

end Gatewatch.Filter
