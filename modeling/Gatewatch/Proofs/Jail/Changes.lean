/-
What the changes of a jail do.

# Settings

The settings of a jail are what requests can set and what a
configuration can declare (`Jail.Settings`). What the workers of the jail
keep for themselves is no part of them: how far the files were read, the
offences and the bans, the order in which dates are looked for.

A change acts on settings alone (`Change.effect`), whatever the files and
the shell are like: a change that succeeds has made of the settings what
its effect says (`effect_settings`). So what a sequence of changes makes
of a jail is computed without running one.

# Refusals and the surroundings

A change that is refused leaves the jail as it was, and nothing behind but
notes. The one change that runs commands, to lift a ban, is refused before
it runs any. No change touches what is steady in the surroundings, such as
the level and the target of the log.
-/
import Gatewatch.Jail.Setting
import Gatewatch.Proofs.Jail.Frame
import Gatewatch.Proofs.Filter.Settings

namespace Gatewatch

namespace Jail

-- =========================================================== arguments

/-- A word is taken from its place in the request. -/
theorem word_eq_ok_iff {args : List String} {index : Nat} {w : String} :
    word args index = .ok w ↔ args[index]? = some w := by
  unfold word
  cases args[index]? with
  | none => exact ⟨nofun, nofun⟩
  | some v => constructor <;> intro h <;> injection h with h <;> rw [h]

/-- Words are joined from a place within the request on. -/
theorem words_eq_ok_iff {args : List String} {index : Nat} {w : String} :
    words args index = .ok w
      ↔ index < args.length ∧ " ".intercalate (args.drop index) = w := by
  unfold words
  split
  case isTrue h => exact ⟨nofun, fun hw => absurd hw.1 (Nat.not_lt.2 h)⟩
  case isFalse h =>
    constructor
    · intro hw
      injection hw with hw
      exact ⟨Nat.not_le.1 h, hw⟩
    · exact fun hw => congrArg Except.ok hw.2

/-- A number is read from the word in its place. -/
theorem number_eq_ok_iff {α : Type} {args : List String} {index : Nat}
    {what : String} {read : List Char → Option α} {n : α} :
    number args index what read = .ok n
      ↔ ∃ w, args[index]? = some w ∧ read w.toList = some n := by
  unfold number
  rw [Outcome.bind_eq_ok]
  refine exists_congr fun w => and_congr word_eq_ok_iff ?_
  cases read w.toList with
  | none => exact ⟨nofun, nofun⟩
  | some m => constructor <;> intro h <;> injection h with h <;> rw [h]

-- ============================================================ settings

/-- A log file as it is read: where it is, whether reading began at its
end, and by which charset. -/
structure LogSource where
  path : String
  tail : Bool
  charset : Text.Charset

/-- The source that a log file is read from. -/
def LogSource.of (f : Filter.LogFile) : LogSource :=
  ⟨f.path, f.tail, f.charset⟩

/-- What can be set and declared of a jail. The date pattern stands
beside the name of its template. -/
structure Settings where
  name : String
  backend : Filter.Backend
  watcher : String
  running : Bool
  idle : Bool
  sources : List LogSource
  patterns : Filter.Patterns
  ignored : Net.IgnoreList
  findTime : Int
  maxRetry : Nat
  banTime : Int
  useDns : Net.UseDns
  maxLines : Nat
  charset : Text.Charset
  datePattern : Option (String × String)
  ignoreCommand : String
  actions : List Action

/-- The settings of a jail. -/
def settings (j : Jail) : Settings where
  name := j.name
  backend := j.backend
  watcher := j.filter.watcher.name
  running := j.running
  idle := j.idle
  sources := j.filter.files.map LogSource.of
  patterns := j.filter.patterns
  ignored := j.filter.ignored
  findTime := j.filter.table.findTime
  maxRetry := j.filter.table.maxRetry
  banTime := j.roster.roll.banTime
  useDns := j.filter.useDns
  maxLines := j.filter.maxLines
  charset := j.filter.charset
  datePattern := j.filter.detector.pattern?
  ignoreCommand := j.filter.ignoreCommand
  actions := j.roster.actions

/-- Changes the action of a name. -/
def alter (name : String) (f : Action → Action) (actions : List Action) :
    Outcome (List Action) :=
  match actions.find? (·.name == name) with
  | some a =>
    .ok (actions.map fun b => if b.name = (f a).name then f a else b)
  | none => .error (.unknownAction name)

/-- What a change makes of settings. -/
def Change.effect (c : Change) (s : Settings) : Outcome Settings :=
  match c with
  | idle on => .ok { s with idle := on }
  | addIgnored entry => .ok { s with ignored := (s.ignored.add entry).1 }
  | removeIgnored entry =>
    .ok { s with ignored := (s.ignored.remove entry).1 }
  | addPath path tail =>
    .ok { s with sources := s.sources ++ [⟨path, tail, s.charset⟩] }
  | removePath path =>
    .ok { s with
      sources := s.sources.filter fun f => !Disk.samePath f.path path }
  | addFail pattern =>
    (s.patterns.addFail pattern).map fun patterns => { s with patterns }
  | removeFail index =>
    (s.patterns.removeFail index).map fun x => { s with patterns := x.2 }
  | addIgnore pattern =>
    (s.patterns.addIgnore pattern).map fun patterns => { s with patterns }
  | removeIgnore index =>
    (s.patterns.removeIgnore index).map fun x => { s with patterns := x.2 }
  | findTime secs => .ok { s with findTime := secs }
  | maxRetry n => .ok { s with maxRetry := n }
  | banTime secs => .ok { s with banTime := secs }
  | useDns mode => .ok { s with useDns := mode }
  | maxLines n => .ok { s with maxLines := n }
  | ignoreCommand command => .ok { s with ignoreCommand := command }
  | charset label =>
    (Filter.charsetOf label).map fun charset =>
      { s with charset, sources := s.sources.map ({ · with charset }) }
  | datePattern pattern =>
    (Date.Template.ofFields pattern).map fun t =>
      { s with datePattern := some (pattern, t.name) }
  | ban _ | unban _ => .ok s
  | addAction name =>
    if (s.actions.find? (·.name == name)).isSome then
      .error (.duplicateAction name s.name)
    else .ok { s with actions := s.actions ++ [{ name }] }
  | removeAction name =>
    .ok { s with actions := s.actions.filter (·.name != name) }
  | setTag action key value =>
    (alter action (·.setTag key value) s.actions).map fun actions =>
      { s with actions }
  | eraseTag action key =>
    (alter action (fun a => (a.eraseTag key).1) s.actions).map
      fun actions => { s with actions }
  | setCommand role action template =>
    (alter action (fun a => (a.setCommand role template).value)
      s.actions).map fun actions => { s with actions }

-- ============================================================= effects

section Effects

variable {σ : Type} [Shell σ] {j j' : Jail} {h : Host σ}

/-- An action is found under its name. -/
theorem name_of_action {r : Action.Roster} {name : String} {a : Action}
    (ha : r.action name = .ok a) : a.name = name := by
  unfold Action.Roster.action at ha
  cases hfind : r.action? name with
  | none => rw [hfind] at ha; cases ha
  | some b =>
      rw [hfind] at ha
      injection ha with ha
      rw [← ha]
      simpa using List.find?_some hfind

/-- A change of an action is one of the actions' settings. -/
theorem alter_of_action {name : String} (f : Action → Action)
    {a : Action} (ha : j.roster.action name = .ok a) :
    alter name f j.roster.actions = .ok (j.roster.replace (f a)).actions := by
  unfold Action.Roster.action Action.Roster.action? at ha
  unfold alter
  cases hfind : j.roster.actions.find? (·.name == name) with
  | none => rw [hfind] at ha; cases ha
  | some b =>
      rw [hfind] at ha
      injection ha with ha
      rw [← ha]
      rfl

/-- What is concluded is a success where the outcome is one. -/
theorem conclude_eq_ok {α : Type} {put : α → Jail} {x : Outcome α} :
    j.conclude put x = (.ok (), j') ↔ ∃ a, x = .ok a ∧ put a = j' := by
  cases x with
  | error e => exact ⟨nofun, fun ⟨_, h, _⟩ => nomatch h⟩
  | ok a =>
      constructor
      · intro h
        injection h with _ h
        exact ⟨a, rfl, h⟩
      · rintro ⟨_, h, rfl⟩
        injection h with h
        rw [h]
        rfl

/-- A change that succeeds makes of the settings what its effect says. -/
theorem effect_settings {c : Change}
    (hdone : (j.change c).result h = (.ok (), j')) :
    c.effect j.settings = .ok j'.settings := by
  cases c with
  | idle on | findTime secs | maxRetry n | banTime secs | useDns mode
  | ignoreCommand command =>
      injection hdone with _ hdone
      rw [← hdone]
      rfl
  | addIgnored entry =>
      injection hdone with _ hdone
      rw [← hdone, Filter.value_addIgnored]
      rfl
  | removeIgnored entry =>
      obtain ⟨f, hf, rfl⟩ := conclude_eq_ok.1 hdone
      unfold Filter.removeIgnored at hf
      dsimp only at hf
      split at hf
      case isTrue => injection hf with hf; rw [← hf]; rfl
      case isFalse => cases hf
  | addPath path tail =>
      obtain ⟨f, hf, rfl⟩ := conclude_eq_ok.1 hdone
      obtain ⟨watcher, file, hname, hfile, rfl⟩ := Filter.addPath_eq_ok hf
      obtain ⟨rfl, rfl⟩ := Filter.LogFile.openAt_eq_ok hfile
      unfold settings withFilter
      simp only [List.map_append, hname]
      rfl
  | removePath path =>
      obtain ⟨f, hf, rfl⟩ := conclude_eq_ok.1 hdone
      unfold Filter.removePath at hf
      split at hf
      case isTrue =>
        injection hf with hf
        rw [← hf]
        simp only [Change.effect, settings, withFilter, List.filter_map,
          Filter.Watcher.name_unwatch]
        rfl
      case isFalse => cases hf
  | addFail pattern | addIgnore pattern | removeFail index
  | removeIgnore index =>
      obtain ⟨x, hx, rfl⟩ := conclude_eq_ok.1 hdone
      exact Outcome.map_eq_ok.2 ⟨x, hx, rfl⟩
  | maxLines n =>
      obtain ⟨f, hf, rfl⟩ := conclude_eq_ok.1 hdone
      unfold Filter.setMaxLines at hf
      split at hf
      case isTrue => cases hf
      case isFalse => injection hf with hf; rw [← hf]; rfl
  | charset label =>
      obtain ⟨f, hf, rfl⟩ := conclude_eq_ok.1 hdone
      unfold Filter.setCharset at hf
      cases hcharset : Filter.charsetOf label with
      | error e => rw [hcharset] at hf; cases hf
      | ok charset =>
          rw [hcharset] at hf
          injection hf with hf
          refine Outcome.map_eq_ok.2 ⟨charset, hcharset, ?_⟩
          rw [← hf]
          unfold settings withFilter
          simp only [List.map_map]
          rfl
  | datePattern pattern =>
      obtain ⟨f, hf, rfl⟩ := conclude_eq_ok.1 hdone
      obtain ⟨t, detector, ht, hpattern, rfl⟩ :=
        Filter.setDatePattern_eq_ok hf
      refine Outcome.map_eq_ok.2 ⟨t, ht, ?_⟩
      unfold settings withFilter
      simp only [hpattern]
  | ban source =>
      obtain ⟨f, hf, rfl⟩ := conclude_eq_ok.1 hdone
      unfold Filter.addBanned at hf
      split at hf
      case isTrue => injection hf with hf; rw [← hf]; rfl
      case isFalse => cases hf
  | unban source =>
      obtain ⟨r, hr, rfl⟩ := conclude_eq_ok.1 hdone
      unfold Action.Roster.unban at hr
      cases hremove : j.roster.roll.remove source with
      | none => rw [hremove] at hr; cases hr
      | some gone =>
          rw [hremove] at hr
          injection hr with hr
          obtain ⟨b, -, rfl⟩ := Option.map_eq_some_iff.1 hremove
          rw [← hr]
          rfl
  | addAction name =>
      obtain ⟨r, hr, rfl⟩ := conclude_eq_ok.1 hdone
      unfold Action.Roster.addAction at hr
      split at hr
      case isTrue => cases hr
      case isFalse hnew =>
        injection hr with hr
        rw [← hr]
        exact if_neg hnew
  | removeAction name =>
      obtain ⟨r, hr, rfl⟩ := conclude_eq_ok.1 hdone
      obtain ⟨a, ha, hr⟩ := Outcome.bind_eq_ok.1 hr
      injection hr with hr
      rw [← hr, name_of_action ha]
      rfl
  | setTag action key value =>
      obtain ⟨a, ha, rfl⟩ := conclude_eq_ok.1 hdone
      exact Outcome.map_eq_ok.2
        ⟨_, alter_of_action (·.setTag key value) ha, rfl⟩
  | eraseTag action key =>
      obtain ⟨a, ha, rfl⟩ := conclude_eq_ok.1 hdone
      exact Outcome.map_eq_ok.2
        ⟨_, alter_of_action (fun a => (a.eraseTag key).1) ha, rfl⟩
  | setCommand role action template =>
      unfold Jail.change at hdone
      dsimp only at hdone
      cases ha : j.roster.action action with
      | error e => rw [ha] at hdone; cases hdone
      | ok a =>
          rw [ha] at hdone
          injection hdone with _ hdone
          rw [← hdone]
          exact Outcome.map_eq_ok.2 ⟨_, alter_of_action
            (fun a => (a.setCommand role template).value) ha, rfl⟩

-- =========================================================== refusals

/-- What is concluded from a failure is the jail as it was. -/
theorem conclude_refused {α : Type} {put : α → Jail} {x : Outcome α}
    {e : Error} (hrefused : (j.conclude put x).1 = .error e) :
    (j.conclude put x).2 = j := by
  cases x with
  | error e => rfl
  | ok a => cases hrefused

/-- A change that is refused leaves the jail as it was: whatever may
refuse it is asked before anything is put into the jail. -/
theorem change_refused {c : Change} {e : Error}
    (hrefused : ((j.change c).result h).1 = .error e) :
    ((j.change c).result h).2 = j := by
  cases c with
  | idle on | addIgnored entry | findTime secs | maxRetry n
  | banTime secs | useDns mode | ignoreCommand command =>
      cases hrefused
  | removeIgnored entry | addPath path tail | removePath path
  | addFail pattern | removeFail index | addIgnore pattern
  | removeIgnore index | maxLines n | charset label
  | datePattern pattern | ban source | unban source | addAction name
  | removeAction name | setTag action key value
  | eraseTag action key =>
      exact conclude_refused hrefused
  | setCommand role action template =>
      unfold Jail.change at hrefused ⊢
      dsimp only at hrefused ⊢
      cases ha : j.roster.action action with
      | error e => rfl
      | ok a => rw [ha] at hrefused; cases hrefused

-- ======================================================= surroundings

/-- A change that runs no commands leaves only notes. -/
theorem onlyNotes_change (j : Jail) {c : Change} (h : Host σ)
    (hc : ∀ source, c ≠ .unban source) : (j.change c).OnlyNotes h := by
  -- notes and then a value, with a look at the surroundings before them
  -- where a file is added or a ban begins, or a value at once
  cases c with
  | idle on | addIgnored entry | findTime secs | maxRetry n
  | banTime secs | ignoreCommand command | removeIgnored entry
  | removePath path | maxLines n | charset label | datePattern pattern
  | addAction name =>
      exact Work.OnlyNotes.bind (Work.OnlyNotes.ofNoted _ h)
        (Work.OnlyNotes.pure _ _)
  | addFail pattern | removeFail index | addIgnore pattern
  | removeIgnore index | useDns mode | removeAction name
  | setTag action key value | eraseTag action key | ban source =>
      exact Work.OnlyNotes.pure _ h
  | addPath path tail =>
      exact Work.OnlyNotes.get (Work.OnlyNotes.bind
        (Work.OnlyNotes.ofNoted _ h) (Work.OnlyNotes.pure _ _))
  | setCommand role action template =>
      unfold Jail.change
      dsimp only
      split
      case h_1 => exact Work.OnlyNotes.pure _ h
      case h_2 =>
        exact Work.OnlyNotes.bind (Work.OnlyNotes.ofNoted _ h)
          (Work.OnlyNotes.pure _ _)
  | unban source => exact absurd rfl (hc source)

/-- A change that is refused leaves only notes. -/
theorem onlyNotes_refused {c : Change} {e : Error}
    (hrefused : ((j.change c).result h).1 = .error e) :
    (j.change c).OnlyNotes h := by
  by_cases hc : ∃ source, c = .unban source
  · obtain ⟨source, rfl⟩ := hc
    unfold Jail.change Action.Roster.unban at hrefused ⊢
    dsimp only at hrefused ⊢
    cases hremove : j.roster.roll.remove source with
    | none => exact Work.OnlyNotes.pure _ h
    | some gone => rw [hremove] at hrefused; cases hrefused
  · exact j.onlyNotes_change h fun source h => hc ⟨source, h⟩

/-- A change leaves what notes and commands do not touch. -/
theorem keeps_change {γ : Type} {part : Host σ → γ}
    (hpart : Host.Steady part) (j : Jail) (c : Change) :
    (j.change c : Work σ _).Keeps part := by
  by_cases hc : ∃ source, c = .unban source
  · obtain ⟨source, rfl⟩ := hc
    exact Work.Keeps.bind (j.roster.keeps_unban hpart source)
      fun _ => Work.Keeps.pure _
  · exact Work.Keeps.of_onlyNotes hpart fun h =>
      j.onlyNotes_change h fun source h => hc ⟨source, h⟩

end Effects

end Jail

end Gatewatch
