/-
What the wakes of a jail read of a file that grows.

# Three states

A file that is polled is known in three places: the mark that the watcher
took last, the position of the reader, and whether the jail is idle. A
wake takes the new mark first; only then does it ask whether the jail is
idle, and if so it reads nothing. The change is reported once, so an idle
wake that takes the report leaves the new lines behind until the file
changes again.

# The account

`Scene` keeps what none of the three does: the bytes of the file, the
lines that were processed, the bytes that were there when the file was
read last, and whether the report of the last change was lost to an idle
jail. The lines processed are always those of a front of the file
(`Scene.Sound`), and they are all of them unless a report was lost
(`wake_tells_all_unless_lost`).
-/
import Gatewatch.Jail.Basic
import Gatewatch.Proofs.Filter.Passing
import Gatewatch.Proofs.Filter.Reading
import Gatewatch.Shell.Script

namespace Gatewatch

open Disk (Tree Stamp)

namespace Filter

variable {σ : Type} {path : String} {n : Nat} {bytes : List UInt8}
  {stamp : Stamp} {files : Tree}

-- ============================================================ polling

/-- The mark of a file that is there. -/
theorem Mark.of_holds (h : files.Holds path n bytes stamp) :
    Mark.of files path = .ok ⟨n, bytes.length, stamp⟩ := by
  have hbind : Mark.of files path = (files.find path).bind fun found =>
      .ok ⟨found.1, (files.bytesOf found.1).length, found.2.stamp⟩ := rfl
  rw [hbind, show files.find path = .ok (n, ⟨.file bytes, stamp⟩) from h]
  show Except.ok (⟨n, (files.bytesOf n).length, stamp⟩ : Mark) = _
  rw [h.bytesOf]

/-- Polling a file that is there takes its mark, and reports it if the
mark is new. -/
theorem value_poll (h : files.Holds path n bytes stamp)
    (last : Option Mark) :
    ((Watcher.polling [⟨path, last⟩]).poll files).value
      = (.polling [⟨path, some ⟨n, bytes.length, stamp⟩⟩],
          if last = some ⟨n, bytes.length, stamp⟩ then {}
          else { modified := [path] }) := by
  have hone : (Polled.poll files ⟨path, last⟩).value
      = (⟨path, some ⟨n, bytes.length, stamp⟩⟩,
          if last = some ⟨n, bytes.length, stamp⟩ then {}
          else { modified := [path] }) := by
    unfold Polled.poll
    rw [show Mark.of files path = _ from Mark.of_holds h]
    dsimp only
    split
    case isTrue hsame => rw [hsame]; rfl
    case isFalse => rfl
  have hall : ((Watcher.polling [⟨path, last⟩]).poll files).value
      = (.polling [(Polled.poll files ⟨path, last⟩).value.1],
          Event.sorted
            ⟨(Polled.poll files ⟨path, last⟩).value.2.modified ++ [],
              (Polled.poll files ⟨path, last⟩).value.2.missing ++ []⟩) :=
    rfl
  rw [hall, hone]
  dsimp only
  split <;> rfl

/-- Of some files the one that changed is read, and its new lines are
processed. -/
theorem result_tellFiles [Shell σ] {h : Host σ} {f : Filter}
    {file file' : LogFile} {lines : List String}
    (hread : (file.readLines h.files h.decoders).value
      = .ok (file', lines))
    (hfiles : f.files = [file]) :
    ∃ g m, (f.tellFiles [file.path]).result h = ((g, m), lines)
      ∧ g.files = [file'] ∧ g.watcher = f.watcher := by
  have hwanted : isWanted [file.path] file.path = true := by
    simp [isWanted, Disk.samePath]
  have hfound : (f.readFiles h.files h.decoders [file.path] f.files).value
      = ([file'], lines) := by
    rw [hfiles]
    unfold readFiles
    rw [if_pos hwanted, Noted.value_bind, hread]
    simp [readFiles]
  unfold tellFiles
  rw [Work.result_bind, Work.result_files, Work.after_files,
    Work.result_bind, Work.result_decoders, Work.after_decoders,
    Work.result_bind, Work.result_ofNoted, hfound, result_tellLines]
  exact ⟨_, _, rfl, (SameFiles.addLines _ _ _).files,
    (SameFiles.addLines _ _ _).watcher⟩

end Filter

namespace Jail

-- ========================================================== one wake

section Wake

variable {σ : Type} [Shell σ]

/-- Acts on what happened to the files, like `heed`, and tells which
lines were processed. -/
def tellHeed (j : Jail) (event : Filter.Event) :
    Work σ (Jail × List String) := do
  let (filter, tripped) ←
    Work.ofNoted (Filter.noteMissing event j.filter.paths j.filter)
  if tripped then return ({ j with filter, idle := true }, [])
  let (filter, told) ←
    if event.modified.isEmpty then pure (filter, []) else do
      let ((filter, n), told) ← filter.tellFiles event.modified
      if 0 < n then
        Work.note .debug (j.about (toString n ++ " new fail event(s)"))
      pure (filter, told)
  let (filter, due) ← Work.ofNoted filter.drain
  let filter ← Work.ofNoted (filter.tidy (← Work.now))
  return ({ j with filter, queue := j.queue ++ due }, told)

/-- A wake of the filter, like `wakeFilter`, that tells which lines were
processed. -/
def tellWake (j : Jail) : Work σ (Jail × List String) := do
  let (watcher, event) ←
    Work.ofNoted (j.filter.watcher.poll (← Work.files))
  let j := { j with filter := { j.filter with watcher } }
  if j.idle then return (j, []) else j.tellHeed event

theorem heed_eq (j : Jail) (event : Filter.Event) :
    (j.heed event : Work σ Jail) = Prod.fst <$> j.tellHeed event := by
  unfold heed tellHeed
  simp only [map_bind]
  refine congrArg _ (funext fun noted => ?_)
  split
  case isTrue => rfl
  case isFalse =>
    split
    case isTrue => simp
    case isFalse =>
      simp only [Filter.processFiles_eq, bind_map_left, map_bind]
      refine congrArg _ (funext fun read => ?_)
      split <;> simp

/-- Forgetting the lines gives the wake back. -/
theorem wakeFilter_eq (j : Jail) :
    (j.wakeFilter : Work σ Jail) = Prod.fst <$> j.tellWake := by
  unfold wakeFilter tellWake
  simp only [map_bind]
  refine congrArg _ (funext fun files => ?_)
  refine congrArg _ (funext fun polled => ?_)
  split
  case isTrue => rfl
  case isFalse => exact heed_eq _ _

variable {path : String} {n : Nat} {bytes : List UInt8} {stamp : Stamp}
  {last : Option Filter.Mark} {h : Host σ} {j : Jail}

/-- Where nothing happened, nothing is read. -/
theorem result_tellHeed_nothing (j : Jail) (h : Host σ) :
    ∃ j', (j.tellHeed {}).result h = (j', []) ∧ j'.idle = j.idle
      ∧ j'.filter.SameFiles j.filter := by
  obtain ⟨g, hnote, hsame⟩ :=
    Filter.SameFiles.noteMissing (e := {}) rfl j.filter.paths j.filter
  unfold tellHeed
  rw [Work.result_bind, Work.result_ofNoted, hnote]
  exact ⟨_, rfl, rfl, hsame.files, hsame.watcher⟩

omit [Shell σ] in
/-- Notes go to the log, so another file is read as it was before
them. -/
theorem value_readLines_noted {file : Filter.LogFile}
    (hfile : h.files.Holds file.path n bytes stamp)
    (hlog : h.log.node? ≠ some n) (notes : List Note) :
    (file.readLines h.files h.decoders).value
      = (file.readLines (notes.foldl Host.record h).files
          (notes.foldl Host.record h).decoders).value := by
  rw [Host.steady_decoders.foldl_record]
  exact Filter.LogFile.value_readLines_congr hfile (hfile.record hlog notes)

/-- A file that changed is read, and its new lines are processed. -/
theorem result_tellHeed_modified {file file' : Filter.LogFile}
    {lines : List String} (hfiles : j.filter.files = [file])
    (hfile : h.files.Holds file.path n bytes stamp)
    (hlog : h.log.node? ≠ some n)
    (hread : (file.readLines h.files h.decoders).value
      = .ok (file', lines)) :
    ∃ j', (j.tellHeed { modified := [file.path] }).result h = (j', lines)
      ∧ j'.idle = j.idle ∧ j'.filter.files = [file']
      ∧ j'.filter.watcher = j.filter.watcher := by
  obtain ⟨g, hnote, hsame⟩ := Filter.SameFiles.noteMissing
    (e := { modified := [file.path] }) rfl j.filter.paths j.filter
  -- the notes so far went to the log, which is another file
  rw [value_readLines_noted hfile hlog (Filter.noteMissing
    { modified := [file.path] } j.filter.paths j.filter).notes] at hread
  obtain ⟨k, m, htell, hnow, hwatcher⟩ :=
    Filter.result_tellFiles hread (hsame.files.trans hfiles)
  unfold tellHeed
  rw [Work.result_bind, Work.result_ofNoted, hnote, Work.after_ofNoted]
  dsimp only
  rw [if_neg (by decide), if_neg (by simp), Work.result_bind, htell]
  dsimp only
  have hwatch := hwatcher.trans hsame.watcher
  split
  case isTrue => exact ⟨_, rfl, rfl, hnow, hwatch⟩
  case isFalse => exact ⟨_, rfl, rfl, hnow, hwatch⟩

/-- The jail with the mark that was taken of its file. -/
def marked (j : Jail) (path : String) (mark : Filter.Mark) : Jail :=
  { j with filter :=
      { j.filter with watcher := .polling [⟨path, some mark⟩] } }

/-- A wake takes the mark of the file. An idle jail does no more; another
acts on the change if the mark is new. -/
theorem result_tellWake (hfile : h.files.Holds path n bytes stamp)
    (hwatch : j.filter.watcher = .polling [⟨path, last⟩]) :
    j.tellWake.result h
      = if j.idle = true then (j.marked path ⟨n, bytes.length, stamp⟩, [])
        else ((j.marked path ⟨n, bytes.length, stamp⟩).tellHeed
            (if last = some ⟨n, bytes.length, stamp⟩ then {}
              else { modified := [path] })).result
          ((j.filter.watcher.poll h.files).notes.foldl Host.record h) := by
  have hpoll := Filter.value_poll hfile last
  rw [← hwatch] at hpoll
  unfold tellWake
  rw [Work.result_bind, Work.result_files, Work.after_files,
    Work.result_bind, Work.result_ofNoted, Work.after_ofNoted, hpoll]
  dsimp only
  split <;> rfl

/-- A wake of a jail that is idle, or that finds the mark as it was,
takes the mark and reads nothing. -/
theorem tellWake_quiet (hfile : h.files.Holds path n bytes stamp)
    (hwatch : j.filter.watcher = .polling [⟨path, last⟩])
    (hquiet : j.idle = true ∨ last = some ⟨n, bytes.length, stamp⟩) :
    ∃ j', j.tellWake.result h = (j', []) ∧ j'.idle = j.idle
      ∧ j'.filter.files = j.filter.files
      ∧ j'.filter.watcher
        = .polling [⟨path, some ⟨n, bytes.length, stamp⟩⟩] := by
  rw [result_tellWake hfile hwatch]
  split
  case isTrue => exact ⟨_, rfl, rfl, rfl, rfl⟩
  case isFalse hawake =>
    rw [if_pos (hquiet.resolve_left hawake)]
    obtain ⟨j', htell, hidle, hsame⟩ := result_tellHeed_nothing
      (j.marked path ⟨n, bytes.length, stamp⟩)
      ((j.filter.watcher.poll h.files).notes.foldl Host.record h)
    exact ⟨j', htell, hidle, hsame.files, hsame.watcher⟩

/-- A wake of a jail that is not idle and finds a new mark takes it, and
reads the file. -/
theorem tellWake_reads {file file' : Filter.LogFile}
    {lines : List String} (hfiles : j.filter.files = [file])
    (hfile : h.files.Holds file.path n bytes stamp)
    (hlog : h.log.node? ≠ some n)
    (hwatch : j.filter.watcher = .polling [⟨file.path, last⟩])
    (hawake : j.idle = false)
    (hnew : last ≠ some ⟨n, bytes.length, stamp⟩)
    (hread : (file.readLines h.files h.decoders).value
      = .ok (file', lines)) :
    ∃ j', j.tellWake.result h = (j', lines) ∧ j'.idle = j.idle
      ∧ j'.filter.files = [file']
      ∧ j'.filter.watcher
        = .polling [⟨file.path, some ⟨n, bytes.length, stamp⟩⟩] := by
  have hstill := hfile.record hlog (j.filter.watcher.poll h.files).notes
  rw [value_readLines_noted hfile hlog
    (j.filter.watcher.poll h.files).notes] at hread
  rw [result_tellWake hfile hwatch, if_neg (by simp [hawake]),
    if_neg hnew]
  exact result_tellHeed_modified
    (j := j.marked file.path ⟨n, bytes.length, stamp⟩) hfiles hstill
    (by rw [Host.steady_log.foldl_record]; exact hlog) hread

end Wake

-- ============================================================== scenes

/-- A jail that watches one file: the jail and what reads the encodings,
what is in the file and its stamp, the lines that were processed, whether
the file changed since the last wake, the bytes it had when it was read
last, and whether the wake after its last change found the jail idle. -/
structure Scene where
  jail : Jail
  decoders : Text.Decoders
  node : Nat
  bytes : List UInt8
  stamp : Stamp
  told : List String := []
  changed : Bool := true
  seen : List UInt8 := []
  lost : Bool := false

namespace Scene

/-- What happens: bytes are put behind the file, the jail is suspended or
resumed, or its filter wakes. -/
inductive Move (σ : Type) where
  | append (more : List UInt8) (stamp : Stamp)
  | idle (on : Bool)
  | wake (h : Host σ)

variable {σ : Type} [Shell σ]

/-- The scene after a move. -/
def move (s : Scene) : Move σ → Scene
  | .append more stamp =>
    { s with bytes := s.bytes ++ more, stamp, changed := true }
  | .idle on => { s with jail := (s.jail.setIdle on).value }
  | .wake h =>
    let woken := s.jail.tellWake.result h
    { s with
      jail := woken.1
      told := s.told ++ woken.2
      changed := false
      seen := if s.changed && !s.jail.idle then s.bytes else s.seen
      lost := if s.changed then s.jail.idle else s.lost }

/-- Appending makes the file longer, and a wake sees it as it is and
reads encodings as ever. The log of the program is another file. -/
def Allows (path : String) (s : Scene) : Move σ → Prop
  | .append more _ => more ≠ []
  | .idle _ => True
  | .wake h => h.files.Holds path s.node s.bytes s.stamp
      ∧ h.log.node? ≠ some s.node ∧ h.decoders = s.decoders

/-- The scene after moves. -/
def run (s : Scene) (moves : List (Move σ)) : Scene := moves.foldl move s

/-- What reads the encodings stays the same. -/
theorem decoders_run (s : Scene) (moves : List (Move σ)) :
    (s.run moves).decoders = s.decoders := by
  induction moves generalizing s with
  | nil => rfl
  | cons m rest ih =>
      refine (ih (s.move m)).trans ?_
      cases m <;> rfl

/-- Every move of a run is allowed. -/
def AllowsAll (path : String) : Scene → List (Move σ) → Prop
  | _, [] => True
  | s, m :: rest => s.Allows path m ∧ AllowsAll path (s.move m) rest

/-- The mark of the file as it is now. -/
def mark (s : Scene) : Filter.Mark := ⟨s.node, s.bytes.length, s.stamp⟩

/-- The reading of the file that the jail does. -/
def reading (s : Scene) (file : Filter.LogFile) : Filter.Reading :=
  { file, decoders := s.decoders, node := s.node, bytes := s.bytes
    told := s.told }

/-- The watcher stands at some mark of the file: after a change at one of
a shorter file or none, and else at the mark of the file as it is. What
was told are the lines of the bytes that were read last, and these are
all bytes unless a change came since or was lost. -/
structure Sound (path : String) (charset : Text.Charset) (s : Scene)
    (file : Filter.LogFile) (last : Option Filter.Mark) : Prop where
  files : s.jail.filter.files = [file]
  watcher : s.jail.filter.watcher = .polling [⟨path, last⟩]
  behind : s.changed = true → ∀ m, last = some m → m.size < s.bytes.length
  level : s.changed = false → last = some s.mark
  reads : (s.reading file).Sound path charset
  told : s.told = Filter.textsIn s.decoders charset s.seen
  front : s.seen <+: s.bytes
  seen : s.changed = false → s.lost = false → s.seen = s.bytes

variable {path : String} {charset : Text.Charset} {s : Scene}
  {file : Filter.LogFile} {last : Option Filter.Mark}

/-- A wake that takes the report of a change to a jail that is not idle
reads the file. -/
theorem Sound.wake_reads (h : s.Sound path charset file last)
    {host : Host σ} (hallow : s.Allows path (.wake host))
    (hchanged : s.changed = true) (hawake : s.jail.idle = false) :
    ∃ file', (s.move (.wake host)).Sound path charset file' (some s.mark)
      ∧ (s.move (.wake host)).seen = s.bytes := by
  obtain ⟨hfile, hlog, hdecoders⟩ := hallow
  have hnew : last ≠ some s.mark := fun heq =>
    Nat.lt_irrefl _ (h.behind hchanged s.mark heq)
  have hsees : (s.reading file).Allows path (.read host.files) :=
    ⟨⟨_, hfile⟩, nofun⟩
  obtain ⟨file', lines, hread, htold, hreads⟩ := h.reads.read hsees
  have hreadHere : (file.readLines host.files host.decoders).value
      = .ok (file', lines) := by
    rw [hdecoders]
    exact hread
  have hname : file.path = path := h.reads.names
  subst hname
  obtain ⟨j', htell, -, hfiles, hwatcher⟩ :=
    tellWake_reads h.files hfile hlog h.watcher hawake hnew hreadHere
  have hmove : s.move (.wake host)
      = { s with
          jail := j', told := s.told ++ lines, changed := false
          seen := s.bytes, lost := false } := by
    unfold move
    dsimp only
    rw [htell, hchanged, hawake]
    rfl
  have hreading : (s.reading file).move (.read host.files)
      = { s.reading file with file := file', told := s.told ++ lines } := by
    unfold Filter.Reading.move
    dsimp only
    rw [hread]
    rfl
  rw [hmove]
  refine ⟨file', {
    files := hfiles
    watcher := hwatcher
    behind := nofun
    level := fun _ => rfl
    reads := ?_
    told := htold
    front := List.prefix_rfl
    seen := fun _ _ => rfl }, rfl⟩
  rw [hreading] at hreads
  exact hreads

/-- Another wake reads nothing. -/
theorem Sound.wake_quiet (h : s.Sound path charset file last)
    {host : Host σ} (hallow : s.Allows path (.wake host))
    (hquiet : s.changed = false ∨ s.jail.idle = true) :
    (s.move (.wake host)).Sound path charset file (some s.mark)
      ∧ (s.move (.wake host)).seen = s.seen := by
  obtain ⟨hfile, -⟩ := hallow
  obtain ⟨j', htell, -, hfiles, hwatcher⟩ := tellWake_quiet hfile h.watcher
    (hquiet.elim (fun hold => .inr (h.level hold)) .inl)
  have hmove : s.move (.wake host)
      = { s with
          jail := j', changed := false
          lost := if s.changed then s.jail.idle else s.lost } := by
    have hnot : (s.changed && !s.jail.idle) = false := by
      rcases hquiet with hquiet | hquiet <;> simp [hquiet]
    unfold move
    dsimp only
    rw [htell, hnot, List.append_nil]
    rfl
  have hseen : (if s.changed then s.jail.idle else s.lost) = false →
      s.seen = s.bytes := by
    intro hlost
    rcases hquiet with hold | hidle
    · rw [hold] at hlost
      exact h.seen hold hlost
    · rw [hidle] at hlost
      cases hchanged : s.changed with
      | true => simp [hchanged] at hlost
      | false => exact h.seen hchanged (by simpa [hchanged] using hlost)
  rw [hmove]
  exact ⟨{
    files := hfiles.trans h.files
    watcher := hwatcher
    behind := nofun
    level := fun _ => rfl
    reads := h.reads
    told := h.told
    front := h.front
    seen := fun _ => hseen }, rfl⟩

/-- Bytes that are put behind the file wait for a wake. -/
theorem Sound.append (h : s.Sound path charset file last)
    {more : List UInt8} (hmore : more ≠ []) (stamp : Stamp) :
    (s.move (.append more stamp : Move σ)).Sound path charset file last := by
  have hlonger : s.bytes.length < (s.bytes ++ more).length := by
    have := List.length_pos_of_ne_nil hmore
    rw [List.length_append]
    omega
  have hbehind : ∀ m, last = some m →
      m.size < (s.bytes ++ more).length := by
    intro m hm
    cases hchanged : s.changed with
    | true => exact Nat.lt_trans (h.behind hchanged m hm) hlonger
    | false =>
        cases (h.level hchanged).symm.trans hm
        exact hlonger
  exact {
    files := h.files
    watcher := h.watcher
    behind := fun _ => hbehind
    level := nofun
    reads := h.reads.move (m := .append more) trivial
    told := h.told
    front := h.front.trans (List.prefix_append ..)
    seen := nofun }

/-- Every move that is allowed keeps the account. -/
theorem Sound.move (h : s.Sound path charset file last) {m : Move σ}
    (hallow : s.Allows path m) :
    ∃ file last, (s.move m).Sound path charset file last := by
  cases m with
  | append more stamp => exact ⟨file, last, h.append hallow stamp⟩
  | idle on => exact ⟨file, last, { h with }⟩
  | wake host =>
      by_cases hreads : s.changed = true ∧ s.jail.idle = false
      · obtain ⟨file', hsound, -⟩ :=
          h.wake_reads hallow hreads.1 hreads.2
        exact ⟨file', _, hsound⟩
      · rw [not_and_or, Bool.not_eq_true, Bool.not_eq_false] at hreads
        exact ⟨file, _, (h.wake_quiet hallow hreads).1⟩

/-- Every run that is allowed keeps the account. -/
theorem Sound.run (h : s.Sound path charset file last)
    {moves : List (Move σ)} (hallow : s.AllowsAll path moves) :
    ∃ file last, (s.run moves).Sound path charset file last := by
  induction moves generalizing s file last with
  | nil => exact ⟨file, last, h⟩
  | cons m rest ih =>
      obtain ⟨file', last', hsound⟩ := h.move hallow.1
      exact ih hsound hallow.2

/-- After a wake of a jail that is not idle all lines were told, unless
the report of the last change was lost: then it is those as of the last
read. -/
theorem Sound.wake_told (h : s.Sound path charset file last)
    {host : Host σ} (hallow : s.Allows path (.wake host))
    (hawake : s.jail.idle = false) :
    (s.move (.wake host)).told = Filter.textsIn s.decoders charset
      (if (s.move (.wake host)).lost then s.seen else s.bytes) := by
  have hlost : (s.move (.wake host)).lost
      = if s.changed then s.jail.idle else s.lost := rfl
  cases hchanged : s.changed with
  | true =>
      obtain ⟨_, hnext, hseen⟩ := h.wake_reads hallow hchanged hawake
      rw [hlost, hchanged, hawake, hnext.told, hseen]
      rfl
  | false =>
      obtain ⟨hnext, hseen⟩ := h.wake_quiet hallow (.inl hchanged)
      rw [hlost, hchanged, hnext.told, hseen]
      cases hbefore : s.lost with
      | true => rfl
      | false =>
          rw [h.seen hchanged hbefore]
          rfl

end Scene

/-- Whatever is put behind a file that a jail polls, and whenever the
jail is suspended, resumed or woken: the lines processed are those of a
front of the file, each once and in order. After a wake of a jail that is
not idle they are all lines of the file, unless the wake after the last
change found the jail idle: then they are those that were there when the
file was read last. -/
theorem wake_tells_all_unless_lost {σ : Type} [Shell σ] {files : Tree}
    {path : String} {n : Nat} {bytes : List UInt8} {stamp : Stamp}
    (hfile : files.Holds path n bytes stamp) (j : Jail)
    (decoders : Text.Decoders) (hnone : j.filter.files = [])
    (hpolls : j.filter.watcher = .polling []) :
    ∃ f, (j.filter.addPath files path false).value = .ok f
      ∧ ∀ moves : List (Scene.Move σ),
        let start : Scene :=
          { jail := { j with filter := f }, decoders, node := n, bytes
            stamp }
        let s := start.run moves
        let texts := Filter.textsIn decoders j.filter.charset
        start.AllowsAll path moves →
          s.told = texts s.seen ∧ s.seen <+: s.bytes
            ∧ ∀ h : Host σ, s.Allows path (.wake h) →
              let s' := s.move (.wake h)
              s'.jail = s.jail.wakeFilter.result h
                ∧ (s.jail.idle = false →
                  s'.told = texts (if s'.lost then s.seen else s.bytes)) := by
  have hadd : (j.filter.addPath files path false).value
      = .ok { j.filter with
          watcher := .polling [{ path }]
          files := [Filter.LogFile.setCharset
            { path, tail := false, position := 0
              identity := ⟨n, Filter.firstLine bytes⟩ }
            j.filter.charset] } := by
    unfold Filter.addPath Filter.hasPath
    rw [hnone, hpolls, Filter.LogFile.openAt_of_holds hfile]
    rfl
  refine ⟨_, hadd, ?_⟩
  intro moves start s texts hallow
  have hstart : start.Sound path j.filter.charset _ none := {
    files := rfl
    watcher := rfl
    behind := nofun
    level := nofun
    reads := .ofOpened ..
    told := rfl
    front := List.nil_prefix
    seen := nofun }
  obtain ⟨file, last, hsound⟩ := hstart.run hallow
  have hdecoders : s.decoders = decoders := start.decoders_run moves
  refine ⟨?_, hsound.front, fun h hwake => ⟨?_, fun hawake => ?_⟩⟩
  · rw [hsound.told, hdecoders]
  · rw [wakeFilter_eq, Work.result_map]
    rfl
  · rw [hsound.wake_told hwake hawake, hdecoders]

/-- A log of one line. -/
def oneLine : Tree :=
  (Tree.initial.write "a.log" [97, 10]).toOption.getD Tree.initial

/-- The same log with a second line. -/
def twoLines : Tree :=
  (oneLine.append "a.log" [98, 10]).toOption.getD Tree.initial

theorem oneLine_holds :
    oneLine.Holds "a.log" 10 [97, 10] (.moment 12) := by
  unfold Tree.Holds
  decide +kernel

theorem twoLines_holds :
    twoLines.Holds "a.log" 10 [97, 10, 98, 10] (.moment 13) := by
  unfold Tree.Holds
  decide +kernel

/-- A jail that polls no file yet. -/
def unwatching : Jail where
  name := "ssh"
  backend := .polling
  filter :=
    { jail := "ssh", detector := Date.Detector.builtin 0
      watcher := .polling [] }
  roster := { jail := "ssh" }

/-- Surroundings with some files, and no log. -/
def around (files : Tree) : Host Script := { now := 0, files, shell := {} }

/-- The jail is suspended, wakes, and is resumed: the wake takes the
report of the log. -/
def suspended : List (Scene.Move Script) :=
  [.idle true, .wake (around oneLine), .idle false]

/-- The log grows after that, and is read again. -/
theorem resumed_jail_tells_all :
    oneLine.Holds "a.log" 10 [97, 10] (.moment 12)
      ∧ ∃ f, (unwatching.filter.addPath oneLine "a.log" false).value = .ok f
        ∧ let start : Scene :=
            { jail := { unwatching with filter := f }
              decoders := Text.asciiOnly, node := 10, bytes := [97, 10]
              stamp := .moment 12 }
          let moves := suspended ++ [.append [98, 10] (.moment 13)]
          let s := start.run moves
          start.AllowsAll "a.log" moves
            ∧ s.Allows "a.log" (.wake (around twoLines))
            ∧ (s.move (.wake (around twoLines))).told = ["a", "b"] := by
  obtain ⟨f, hadd, hwakes⟩ := wake_tells_all_unless_lost (σ := Script)
    oneLine_holds unwatching Text.asciiOnly rfl rfl
  refine ⟨oneLine_holds, f, hadd, ?_⟩
  intro start moves s
  have hall : start.AllowsAll "a.log" moves :=
    ⟨trivial, ⟨oneLine_holds, nofun, rfl⟩, trivial,
      by simp [Scene.Allows], trivial⟩
  have hwake : s.Allows "a.log" (.wake (around twoLines)) :=
    ⟨twoLines_holds, nofun, rfl⟩
  have htexts : Filter.textsIn Text.asciiOnly .utf8 [97, 10, 98, 10]
      = ["a", "b"] := by
    decide +kernel
  obtain ⟨-, -, hlast⟩ := hwakes moves hall
  exact ⟨hall, hwake, ((hlast _ hwake).2 rfl).trans htexts⟩

/-- Without that the line of the log is left behind. -/
theorem suspended_jail_leaves_line :
    let f := (unwatching.filter.addPath oneLine "a.log"
      false).value.toOption.getD unwatching.filter
    let start : Scene :=
      { jail := { unwatching with filter := f }
        decoders := Text.asciiOnly, node := 10, bytes := [97, 10]
        stamp := .moment 12 }
    let s := start.run suspended
    start.AllowsAll "a.log" suspended
      ∧ s.Allows "a.log" (.wake (around oneLine))
      ∧ s.jail.idle = false
      ∧ Filter.textsIn Text.asciiOnly .utf8 s.bytes = ["a"]
      ∧ (s.move (.wake (around oneLine))).told = [] := by
  intro f start s
  refine ⟨⟨trivial, ⟨oneLine_holds, nofun, rfl⟩, trivial, trivial⟩,
    ⟨oneLine_holds, nofun, rfl⟩, ?_, ?_, ?_⟩
  · decide +kernel
  · decide +kernel
  · decide +kernel

end Jail

end Gatewatch
