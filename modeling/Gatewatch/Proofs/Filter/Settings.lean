/-
What the requests about a filter make of it, each told by the fields of
the filter that it puts new values into. A field that is not named is
kept.

Only those requests are here whose outcome hangs on more than their own
words: on the file that is opened, on the way of watching, on the list
that an entry is put into, on the pattern that is read, and on the
templates for dates.
-/
import Gatewatch.Filter.Basic
import Gatewatch.Proofs.Outcome

namespace Gatewatch

-- ============================================================== files

namespace Filter

/-- A file is opened for its path, from the end that was asked for. -/
theorem LogFile.openAt_eq_ok {files : Disk.Tree} {path : String}
    {tail : Bool} {file : LogFile}
    (h : LogFile.openAt files path tail = .ok file) :
    file.path = path ∧ file.tail = tail := by
  obtain ⟨seen, -, hfile⟩ := Outcome.bind_eq_ok.1 h
  injection hfile with hfile
  rw [← hfile]
  exact ⟨rfl, rfl⟩

/-- A watcher goes on watching in its way when a file is added. -/
theorem Watcher.name_watch {w w' : Watcher} {files : Disk.Tree}
    {path : String} {notifier : Notifier}
    (h : (w.watch files path notifier).value = .ok w') :
    w'.name = w.name := by
  cases w with
  | polling fs =>
      unfold watch at h
      dsimp only at h
      split at h
      case isTrue => injection h with h; rw [← h]
      case isFalse => injection h with h; rw [← h]; rfl
  | notify fs seen =>
      unfold watch at h
      dsimp only at h
      cases hplace : place files path with
      | error e => rw [hplace] at h; cases h
      | ok p =>
          rw [hplace] at h
          dsimp only at h
          split at h
          case isTrue => injection h with h; rw [← h]; rfl
          case isFalse =>
            cases hrefuses : notifier.refuses p.dropLast with
            | some reason => rw [hrefuses] at h; cases h
            | none =>
                rw [hrefuses] at h
                injection h with h
                rw [← h]
                rfl

/-- A watcher goes on watching in its way when a file is taken away. -/
theorem Watcher.name_unwatch (w : Watcher) (path : String) :
    (w.unwatch path).name = w.name := by
  cases w <;> rfl

/-- A file that was added stands behind the others, read by the charset
of the filter, and is watched in the way of its watcher. -/
theorem addPath_eq_ok {f g : Filter} {files : Disk.Tree} {path : String}
    {tail : Bool} {notifier : Notifier}
    (h : (f.addPath files path tail notifier).value = .ok g) :
    ∃ watcher file, watcher.name = f.watcher.name
      ∧ LogFile.openAt files path tail = .ok file
      ∧ g = { f with
          watcher, files := f.files ++ [file.setCharset f.charset] } := by
  unfold addPath at h
  split at h
  case isTrue => cases h
  case isFalse =>
    cases hfile : LogFile.openAt files path tail with
    | error e => rw [hfile] at h; cases h
    | ok file =>
        rw [hfile] at h
        dsimp only at h
        rw [Noted.value_bind] at h
        cases hwatch : (f.watcher.watch files path notifier).value with
        | error e => rw [hwatch] at h; cases h
        | ok watcher =>
            rw [hwatch] at h
            injection h with h
            exact ⟨watcher, file, Watcher.name_watch hwatch, rfl, h.symm⟩

-- ============================================================ entries

/-- An entry is put into the list of the filter. -/
theorem value_addIgnored (f : Filter) (entry : String) :
    (f.addIgnored entry).value
      = { f with ignored := (f.ignored.add entry).1 } := by
  unfold addIgnored
  rcases f.ignored.add entry with ⟨ignored, new⟩
  cases new <;> rfl

/-- A failure pattern that was added is behind the others, and nothing
else is new. -/
theorem Patterns.addFail_eq_ok {p p' : Patterns} {source : String}
    (h : p.addFail source = .ok p') :
    ∃ line, p' = { p with fail := p.fail ++ [line] } := by
  obtain ⟨line, -, h⟩ := Outcome.bind_eq_ok.1 h
  split at h
  case isTrue =>
    injection h with h
    exact ⟨line, h.symm⟩
  case isFalse => cases h

end Filter

-- ============================================================== dates

/-- A template from a text with fields is known by that text. -/
theorem Date.Template.source_ofFields {pattern : String} {t : Template}
    (h : Template.ofFields pattern = .ok t) : t.source = some pattern := by
  unfold Template.ofFields at h
  dsimp only at h
  split at h
  all_goals
    obtain ⟨parts, -, hmake⟩ := Outcome.bind_eq_ok.1 h
    obtain ⟨made, -, ht⟩ := Outcome.bind_eq_ok.1 hmake
    injection ht with ht
    rw [← ht]

/-- A pattern that is set is the one that is in force. -/
theorem Date.Detector.setPattern_eq_ok {d d' : Detector}
    {pattern : String} (h : (d.setPattern pattern).value = .ok d') :
    ∃ t, Template.ofFields pattern = .ok t
      ∧ d'.pattern? = some (pattern, t.name) := by
  unfold Detector.setPattern at h
  cases ht : Template.ofFields pattern with
  | error e => rw [ht] at h; cases h
  | ok t =>
      rw [ht] at h
      injection h with h
      refine ⟨t, rfl, ?_⟩
      rw [← h]
      unfold Detector.pattern?
      rw [List.findSome?_cons, Template.source_ofFields ht]
      rfl

/-- A pattern for dates goes to the detector of the filter. -/
theorem Filter.setDatePattern_eq_ok {f g : Filter} {pattern : String}
    (h : (f.setDatePattern pattern).value = .ok g) :
    ∃ t detector, Date.Template.ofFields pattern = .ok t
      ∧ detector.pattern? = some (pattern, t.name)
      ∧ g = { f with detector } := by
  unfold setDatePattern at h
  rw [Noted.value_bind] at h
  cases hset : (f.detector.setPattern pattern).value with
  | error e => rw [hset] at h; cases h
  | ok detector =>
      rw [hset] at h
      injection h with h
      obtain ⟨t, ht, hpattern⟩ := Date.Detector.setPattern_eq_ok hset
      exact ⟨t, detector, ht, hpattern, h.symm⟩

end Gatewatch
