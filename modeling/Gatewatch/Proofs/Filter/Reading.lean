/-
Reading a log file that grows and is replaced.

# The account

`Reading` keeps what the reader does not: the bytes that the path names
now, the texts that were told of them, and whether they were put in place
of others since the last read. A read is right when it tells exactly the
lines that were not told yet, in order, each by what it spells
(`every_line_is_read_once`).

# Why growth is no replacement

The first line tells one file from another, but it is taken as it stands,
so while it is unfinished it changes as the file grows, and the reader
takes the file for another. That does no harm: as long as the first line
is unfinished no complete line was told, and reading anew repeats
nothing. Once a line was told the first line is finished, and from then
on it stays (`Reading.ReadTo.append`).
-/
import Gatewatch.Proofs.Disk.Tree
import Gatewatch.Proofs.Filter.LineEnds

namespace Gatewatch.Filter

open Disk (Tree Stamp)

-- =========================================================== one read

namespace LogFile

/-- Lines are decoded one by one; a warning is remembered. -/
theorem value_decodeLines (f : LogFile) (decoders : Text.Decoders)
    (lines : List (List UInt8)) :
    ∃ warned, (f.decodeLines decoders lines).value
      = ({ f with warned },
          lines.map fun l => f.charset.decode (withoutReturn l) decoders) := by
  induction lines generalizing f with
  | nil => exact ⟨f.warned, rfl⟩
  | cons line rest ih =>
      have hline : ∃ warned, (f.decodeLine decoders line).value
          = ({ f with warned },
              f.charset.decode (withoutReturn line) decoders) := by
        unfold decodeLine
        dsimp only
        split
        · exact ⟨true, rfl⟩
        · exact ⟨f.warned, rfl⟩
      obtain ⟨warned, hline⟩ := hline
      obtain ⟨warned', hrest⟩ := ih { f with warned }
      refine ⟨warned', ?_⟩
      simp only [decodeLines, Noted.value_bind, Noted.value_pure, hline,
        hrest, List.map_cons]

variable {f : LogFile} {files : Tree} {path : String} {n : Nat}
  {bytes : List UInt8} {stamp : Stamp} {decoders : Text.Decoders}

/-- What is seen of a file is its node and its first line, and its
bytes. -/
theorem look_of_holds (h : files.Holds path n bytes stamp) :
    look files path = .ok (⟨n, firstLine bytes⟩, bytes) := by
  unfold look
  rw [show files.find path = .ok (n, ⟨.file bytes, stamp⟩) from h]
  simp only [h.read]

/-- A file that can be read is opened; nothing of it counts as read. -/
theorem openAt_of_holds (h : files.Holds path n bytes stamp) :
    openAt files path false
      = .ok { path, tail := false, position := 0
              identity := ⟨n, firstLine bytes⟩ } := by
  unfold openAt
  rw [look_of_holds h]
  rfl

/-- A file counts as another when its node or its first line is another,
or when it is shorter than what was read. -/
theorem isReplaced_iff (f : LogFile) (n : Nat) (bytes : List UInt8) :
    f.isReplaced ⟨n, firstLine bytes⟩ bytes.length = true
      ↔ n ≠ f.identity.node ∨ firstLine bytes ≠ f.identity.firstLine
        ∨ bytes.length < f.position := by
  unfold isReplaced
  rcases f.identity with ⟨node, first⟩
  rw [Bool.or_eq_true, decide_eq_true_eq, bne_iff_ne, ne_eq,
    Identity.mk.injEq, not_and_or, or_assoc]

/-- Reading on tells the complete lines behind the position, and goes
behind them. -/
theorem value_readOn (f : LogFile) (bytes : List UInt8)
    (decoders : Text.Decoders) :
    ∃ warned, (f.readOn bytes decoders).value
      = ({ f with
            position := f.position
              + spanOf (completeLines (bytes.drop f.position))
            warned },
          textsOf decoders f.charset
            (completeLines (bytes.drop f.position))) := by
  unfold readOn
  dsimp only
  split
  case isTrue hempty =>
    rw [List.isEmpty_iff.1 hempty]
    exact ⟨f.warned, rfl⟩
  case isFalse =>
    obtain ⟨warned, hdecode⟩ := value_decodeLines
      { f with position := f.position
          + spanOf (completeLines (bytes.drop f.position)) } decoders
      ((completeLines (bytes.drop f.position)).filter fun l => !l.isEmpty)
    refine ⟨warned, ?_⟩
    simp only [Noted.value_bind, Noted.value_pure, hdecode]
    rfl

/-- After a look at the file its identity is known. -/
theorem identity_renew (f : LogFile) (identity : Identity) (size : Nat) :
    (f.renew identity size).identity = identity := by
  unfold renew
  split
  case isTrue => rfl
  case isFalse hnot =>
    unfold isReplaced at hnot
    rw [Bool.not_eq_true, Bool.or_eq_false_iff, bne_eq_false_iff_eq] at hnot
    exact hnot.1.symm

/-- A look at the file leaves its path. -/
theorem path_renew (f : LogFile) (identity : Identity) (size : Nat) :
    (f.renew identity size).path = f.path := by
  unfold renew
  split <;> rfl

/-- A look at the file leaves its charset. -/
theorem charset_renew (f : LogFile) (identity : Identity) (size : Nat) :
    (f.renew identity size).charset = f.charset := by
  unfold renew
  split <;> rfl

/-- A read looks at the file, and reads on. -/
theorem value_readLines (h : files.Holds f.path n bytes stamp) :
    (f.readLines files decoders).value
      = .ok ((f.renew ⟨n, firstLine bytes⟩ bytes.length).readOn
          bytes decoders).value := by
  unfold readLines
  rw [look_of_holds h]
  dsimp only
  split <;> rfl

/-- A read is the same wherever the file is the same. -/
theorem value_readLines_congr {files' : Tree} {stamp' : Stamp}
    (h : files.Holds f.path n bytes stamp)
    (h' : files'.Holds f.path n bytes stamp') :
    (f.readLines files decoders).value
      = (f.readLines files' decoders).value := by
  rw [value_readLines h, value_readLines h']

end LogFile

-- ============================================================= readings

/-- A file that is read from time to time: the reader and its decoders,
what its path names now, the texts that were told of that, and whether it
was put in place of another since the last read. -/
structure Reading where
  file : LogFile
  decoders : Text.Decoders
  node : Nat
  bytes : List UInt8
  told : List String := []
  replaced : Bool := false

namespace Reading

/-- What happens to a file: bytes are put behind it, another takes its
place or its bytes are rewritten, or it is read. -/
inductive Move where
  | append (more : List UInt8)
  | replace (node : Nat) (bytes : List UInt8)
  | read (files : Tree)

/-- The reading after a move. -/
def move (r : Reading) : Move → Reading
  | .append more => { r with bytes := r.bytes ++ more }
  | .replace node bytes =>
    { r with node, bytes, told := [], replaced := true }
  | .read files => match (r.file.readLines files r.decoders).value with
    | .ok (file, texts) =>
      { r with file, told := r.told ++ texts, replaced := false }
    | .error _ => r

/-- What is at the path differs from what the reader saw of the file:
another node, another first line, or less than was read. -/
def Differs (r : Reading) : Prop :=
  r.node ≠ r.file.identity.node
    ∨ firstLine r.bytes ≠ r.file.identity.firstLine
    ∨ r.bytes.length < r.file.position

/-- A read sees what is at the path, and a replacement shows by then. -/
def Allows (path : String) (r : Reading) : Move → Prop
  | .read files => (∃ stamp, files.Holds path r.node r.bytes stamp)
      ∧ (r.replaced = true → r.Differs)
  | _ => True

/-- The reading after moves. -/
def run (r : Reading) (moves : List Move) : Reading := moves.foldl move r

/-- Every move of a run is allowed. -/
def AllowsAll (path : String) : Reading → List Move → Prop
  | _, [] => True
  | r, m :: rest => r.Allows path m ∧ AllowsAll path (r.move m) rest

/-- The decoders stay the same. -/
theorem decoders_move (r : Reading) (m : Move) :
    (r.move m).decoders = r.decoders := by
  cases m with
  | append | replace => rfl
  | read files =>
      unfold move
      dsimp only
      split <;> rfl

theorem decoders_run (r : Reading) (moves : List Move) :
    (r.run moves).decoders = r.decoders := by
  induction moves generalizing r with
  | nil => rfl
  | cons m rest ih => exact (ih (r.move m)).trans (r.decoders_move m)

/-- A read changes nothing at the path, and replaces nothing. -/
theorem move_read (r : Reading) (files : Tree) :
    (r.move (.read files)).node = r.node
      ∧ (r.move (.read files)).bytes = r.bytes
      ∧ ((r.move (.read files)).replaced = true → r.replaced = true) := by
  unfold move
  dsimp only
  split
  · exact ⟨rfl, rfl, nofun⟩
  · exact ⟨rfl, rfl, id⟩

/-- The reader stands behind some complete lines, and they are told. -/
structure ReadTo (charset : Text.Charset) (r : Reading)
    (lines : List (List UInt8)) : Prop where
  whole : Whole lines
  front : joined lines <+: r.bytes
  position : r.file.position = spanOf lines
  told : r.told = textsOf r.decoders charset lines
  identity : lines ≠ [] →
    r.file.identity = ⟨r.node, firstLine r.bytes⟩

/-- Nothing was told of a file that is new, and of another what the
reader stands behind. -/
structure Sound (path : String) (charset : Text.Charset) (r : Reading) :
    Prop where
  names : r.file.path = path
  decodes : r.file.charset = charset
  fresh : r.replaced = true → r.told = []
  readTo : r.replaced = false → ∃ lines, r.ReadTo charset lines

variable {path : String} {charset : Text.Charset} {r : Reading}

/-- Growth keeps what was told: the first line is finished by then. -/
theorem ReadTo.append {lines : List (List UInt8)}
    (h : r.ReadTo charset lines) (more : List UInt8) :
    (r.move (.append more)).ReadTo charset lines where
  whole := h.whole
  front := h.front.trans (List.prefix_append ..)
  position := h.position
  told := h.told
  identity hne := by
    obtain ⟨line, rest, rfl⟩ := List.exists_cons_of_ne_nil hne
    have hend : lineEnd ∈ r.bytes := h.front.subset (by simp)
    show r.file.identity = ⟨r.node, firstLine (r.bytes ++ more)⟩
    rw [firstLine_append hend]
    exact h.identity hne

/-- The reader as a read has it, after its look at the file. -/
def renewed (r : Reading) : LogFile :=
  r.file.renew ⟨r.node, firstLine r.bytes⟩ r.bytes.length

/-- A read that succeeds hands the reader on and tells its texts. -/
theorem move_read_of_ok {files : Tree} {file : LogFile}
    {texts : List String}
    (hread : (r.file.readLines files r.decoders).value
      = .ok (file, texts)) :
    r.move (.read files)
      = { r with file, told := r.told ++ texts, replaced := false } := by
  unfold move
  dsimp only
  rw [hread]

/-- A read tells the complete lines behind the place where it starts, and
goes behind them. -/
theorem value_read {files : Tree} (hnames : r.file.path = path)
    (hallow : r.Allows path (.read files)) :
    ∃ warned, (r.file.readLines files r.decoders).value
      = .ok ({ r.renewed with
            position := r.renewed.position
              + spanOf (completeLines (r.bytes.drop r.renewed.position))
            warned },
          textsOf r.decoders r.renewed.charset
            (completeLines (r.bytes.drop r.renewed.position))) := by
  obtain ⟨⟨stamp, hholds⟩, -⟩ := hallow
  rw [← hnames] at hholds
  obtain ⟨warned, hon⟩ :=
    LogFile.value_readOn r.renewed r.bytes r.decoders
  exact ⟨warned, (LogFile.value_readLines hholds).trans
    (congrArg Except.ok hon)⟩

/-- Where a read starts, the lines before are told. -/
theorem Sound.start {files : Tree} (h : r.Sound path charset)
    (hallow : r.Allows path (.read files)) :
    r.renewed.charset = charset
      ∧ ∃ lines, Whole lines ∧ joined lines <+: r.bytes
        ∧ r.renewed.position = spanOf lines
        ∧ r.told = textsOf r.decoders charset lines := by
  obtain ⟨-, hdiffers⟩ := hallow
  unfold renewed LogFile.renew
  split
  case isFalse hsame =>
    cases hnew : r.replaced with
    | true =>
        exact absurd ((r.file.isReplaced_iff _ _).2 (hdiffers hnew)) hsame
    | false =>
        obtain ⟨lines, hread⟩ := h.readTo hnew
        exact ⟨h.decodes, lines, hread.whole, hread.front, hread.position,
          hread.told⟩
  case isTrue hreplaced =>
    refine ⟨h.decodes, [], nofun, List.nil_prefix, rfl, ?_⟩
    cases hnew : r.replaced with
    | true => exact h.fresh hnew
    | false =>
        -- a file that only grew is taken for another while nothing was
        -- told of it
        obtain ⟨lines, hread⟩ := h.readTo hnew
        by_cases hlines : lines = []
        · rw [hread.told, hlines]
        · have hlength := hread.front.length_le
          rw [length_joined, ← hread.position] at hlength
          have hdiff := (r.file.isReplaced_iff _ _).1 hreplaced
          rw [hread.identity hlines] at hdiff
          rcases hdiff with hdiff | hdiff | hdiff
          · exact absurd rfl hdiff
          · exact absurd rfl hdiff
          · omega

/-- A read tells what was not told yet. -/
theorem Sound.read {files : Tree} (h : r.Sound path charset)
    (hallow : r.Allows path (.read files)) :
    ∃ file texts, (r.file.readLines files r.decoders).value
        = .ok (file, texts)
      ∧ r.told ++ texts = textsIn r.decoders charset r.bytes
      ∧ (r.move (.read files)).Sound path charset := by
  obtain ⟨hdecodes, lines, hwhole, ⟨rest, hbytes⟩, hposition, htold⟩ :=
    h.start hallow
  obtain ⟨warned, hread⟩ := value_read h.names hallow
  obtain ⟨hwhole', rest', hrest, -⟩ := completeLines_spec rest
  have hdrop : r.bytes.drop (spanOf lines) = rest := by
    rw [← hbytes, ← length_joined, List.drop_left]
  have htexts : r.told ++ textsOf r.decoders charset (completeLines rest)
      = textsOf r.decoders charset (lines ++ completeLines rest) := by
    rw [htold, textsOf_append]
  rw [hposition, hdrop, hdecodes, ← spanOf_append] at hread
  refine ⟨_, _, hread, ?_, ?_⟩
  · rw [htexts, ← completeLines_joined hwhole, hbytes,
      textsOf_completeLines]
  · rw [move_read_of_ok hread]
    exact {
      names := (r.file.path_renew _ _).trans h.names
      decodes := hdecodes
      fresh := nofun
      readTo := fun _ => ⟨lines ++ completeLines rest, {
        whole := fun l hl => (List.mem_append.1 hl).elim (hwhole l)
          (hwhole' l)
        front := ⟨rest', by
          show joined _ ++ rest' = r.bytes
          rw [joined_append, List.append_assoc, ← hrest, hbytes]⟩
        position := rfl
        told := htexts
        identity := fun _ => r.file.identity_renew _ _ }⟩ }

/-- Of a file that was just opened nothing was told. -/
theorem Sound.ofOpened (path : String) (decoders : Text.Decoders)
    (charset : Text.Charset) (identity : Identity) (n : Nat)
    (bytes : List UInt8) :
    Sound path charset
      { file := { path, tail := false, position := 0, identity, charset }
        decoders, node := n, bytes } where
  names := rfl
  decodes := rfl
  fresh := nofun
  readTo _ := ⟨[], {
    whole := nofun
    front := List.nil_prefix
    position := rfl
    told := rfl
    identity := fun h => absurd rfl h }⟩

/-- Every move that is allowed keeps the account. -/
theorem Sound.move (h : r.Sound path charset) {m : Move}
    (hallow : r.Allows path m) : (r.move m).Sound path charset := by
  cases m with
  | append more =>
      refine ⟨h.names, h.decodes, h.fresh, fun hold => ?_⟩
      obtain ⟨lines, hread⟩ := h.readTo hold
      exact ⟨lines, hread.append more⟩
  | replace node bytes => exact ⟨h.names, h.decodes, fun _ => rfl, nofun⟩
  | read files =>
      obtain ⟨_, _, -, -, hsound⟩ := h.read hallow
      exact hsound

/-- Every run that is allowed keeps the account. -/
theorem Sound.run (h : r.Sound path charset) {moves : List Move}
    (hallow : r.AllowsAll path moves) : (r.run moves).Sound path charset := by
  induction moves generalizing r with
  | nil => exact h
  | cons m rest ih => exact ih (h.move hallow.1) hallow.2

end Reading

/-- Whatever is appended to a file and however often it is replaced, as
long as each replacement shows at the next read: every read succeeds, and
tells in order exactly the complete lines that no read before it told of
the file as it stands in the place now, each by the text that it spells in
the encoding. -/
theorem every_line_is_read_once {files : Tree} {path : String} {n : Nat}
    {bytes : List UInt8} {stamp : Stamp}
    (hfile : files.Holds path n bytes stamp) (decoders : Text.Decoders)
    (charset : Text.Charset) :
    ∃ f, LogFile.openAt files path false = .ok f
      ∧ ∀ moves : List Reading.Move,
        let start : Reading :=
          { file := f.setCharset charset, decoders, node := n, bytes }
        let r := start.run moves
        start.AllowsAll path moves → ∀ files, r.Allows path (.read files) →
          ∃ file texts, (r.file.readLines files decoders).value
              = .ok (file, texts)
            ∧ List.Forall₂ (charset.Spells decoders) (linesIn r.bytes)
              (r.told ++ texts) := by
  refine ⟨_, LogFile.openAt_of_holds hfile, ?_⟩
  intro moves start r hallow files' hread
  have hstart : start.Sound path charset := .ofOpened ..
  obtain ⟨file, texts, hvalue, htold, -⟩ := (hstart.run hallow).read hread
  rw [show (start.run moves).decoders = decoders from
    start.decoders_run moves] at hvalue htold
  refine ⟨file, texts, hvalue, ?_⟩
  rw [htold]
  exact spells_textsIn decoders charset r.bytes

/-- A log that ends within the second letter of a line. -/
def halfLog : Tree :=
  (Tree.initial.write "a.log" [97, 10, 98, 195]).toOption.getD Tree.initial

/-- The same log with the line completed. -/
def grownLog : Tree :=
  (halfLog.append "a.log" [169, 13, 10]).toOption.getD Tree.initial

/-- Another log in its place, whose first byte is malformed. -/
def rotatedLog : Tree :=
  (((grownLog.rename "a.log" "a.log.1").toOption.getD Tree.initial).write
    "a.log" [255, 99, 10]).toOption.getD Tree.initial

theorem halfLog_holds :
    halfLog.Holds "a.log" 10 [97, 10, 98, 195] (.moment 12) := by
  unfold Tree.Holds
  decide +kernel

theorem grownLog_holds :
    grownLog.Holds "a.log" 10 [97, 10, 98, 195, 169, 13, 10]
      (.moment 13) := by
  unfold Tree.Holds
  decide +kernel

theorem rotatedLog_holds :
    rotatedLog.Holds "a.log" 11 [255, 99, 10] (.moment 18) := by
  unfold Tree.Holds
  decide +kernel

/-- The log is read before and after its second line is completed, and
once more when another took its place. -/
theorem rotated_log_is_read_once :
    halfLog.Holds "a.log" 10 [97, 10, 98, 195] (.moment 12)
      ∧ ∃ f, LogFile.openAt halfLog "a.log" false = .ok f
      ∧ let start : Reading :=
          { file := f.setCharset .utf8, decoders := Text.asciiOnly
            node := 10, bytes := [97, 10, 98, 195] }
        let grown : List Reading.Move :=
          [.read halfLog, .append [169, 13, 10]]
        let rotated : List Reading.Move :=
          grown ++ [.read grownLog, .replace 11 [255, 99, 10]]
        start.AllowsAll "a.log" rotated
          ∧ (start.run grown).Allows "a.log" (.read grownLog)
          ∧ (start.run rotated).Allows "a.log" (.read rotatedLog)
          ∧ (start.run grown).told = ["a"]
          ∧ (∃ file, ((start.run grown).file.readLines grownLog).value
              = .ok (file, ["b\u00e9"]))
          ∧ ∃ file, ((start.run rotated).file.readLines rotatedLog).value
              = .ok (file, ["\ufffdc"]) := by
  obtain ⟨f, hopen, hreads⟩ :=
    every_line_is_read_once halfLog_holds Text.asciiOnly .utf8
  have hf := (LogFile.openAt_of_holds halfLog_holds).symm.trans hopen
  refine ⟨halfLog_holds, f, hopen, ?_⟩
  obtain rfl := Except.ok.inj hf
  intro start grown rotated
  obtain ⟨hnode, hbytes, hreplaced⟩ := start.move_read halfLog
  have hgrown : grownLog.Holds "a.log" (start.run grown).node
      (start.run grown).bytes (.moment 13) := by
    show grownLog.Holds "a.log" (start.move (.read halfLog)).node
      ((start.move (.read halfLog)).bytes ++ [169, 13, 10]) _
    rw [hnode, hbytes]
    exact grownLog_holds
  have hsecond : (start.run grown).Allows "a.log" (.read grownLog) :=
    ⟨⟨_, hgrown⟩, fun h => absurd (hreplaced h) nofun⟩
  have hall : start.AllowsAll "a.log" rotated :=
    ⟨⟨⟨_, halfLog_holds⟩, nofun⟩, trivial, hsecond, trivial, trivial⟩
  have hlast : (start.run rotated).Allows "a.log" (.read rotatedLog) :=
    ⟨⟨_, rotatedLog_holds⟩, fun _ => .inl (by decide +kernel)⟩
  have htold : (start.run grown).told = ["a"] := by decide +kernel
  refine ⟨hall, hsecond, hlast, htold, ?_, ?_⟩
  · obtain ⟨file, texts, hvalue, hspells⟩ :=
      hreads grown ⟨⟨⟨_, halfLog_holds⟩, nofun⟩, trivial, trivial⟩ grownLog
        hsecond
    have hbytes' : (start.run grown).bytes
        = [97, 10, 98, 195, 169, 13, 10] := by
      decide +kernel
    have htexts := eq_textsIn_of_spells hspells
    rw [hbytes', htold] at htexts
    have hwhole : textsIn Text.asciiOnly .utf8
        [97, 10, 98, 195, 169, 13, 10] = ["a"] ++ ["b\u00e9"] := by
      decide +kernel
    exact ⟨file, by rw [hvalue, List.append_cancel_left (htexts.trans hwhole)]⟩
  · obtain ⟨file, texts, hvalue, hspells⟩ :=
      hreads rotated hall rotatedLog hlast
    have htexts : texts = textsIn Text.asciiOnly .utf8 [255, 99, 10] :=
      eq_textsIn_of_spells hspells
    have hwhole : textsIn Text.asciiOnly .utf8 [255, 99, 10]
        = ["\ufffdc"] := by
      decide +kernel
    exact ⟨file, by rw [hvalue, htexts, hwhole]⟩

end Gatewatch.Filter
