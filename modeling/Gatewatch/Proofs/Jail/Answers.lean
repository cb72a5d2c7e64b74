/-
What a jail answers after a change.

Most questions are about the settings of the jail (`Settings.answer`);
only the one for its bans is not. A change that answers with a value has
set what one of the questions asks for (`Change.query?`). Afterwards that
question is answered with the same value (`answer_of_changed`), and all
others as before (`answer_of_effect`). Of the latter only those are left
out that name an action which was not there before.

Several options are kept in one list of actions: which was added last,
the tags of each and its five templates. That they do not get into each
other's way is a matter of looking into that list after one action was
changed in it (`find?_alter`), then into its tags or templates.
-/
import Gatewatch.Proofs.Action.Tags
import Gatewatch.Proofs.Jail.Changes

namespace Gatewatch.Jail

open Json (Value)

-- ============================================================= answers

/-- The action of a name, or the error that there is none. -/
def Settings.action (s : Settings) (name : String) : Outcome Action :=
  match s.actions.find? (·.name == name) with
  | some a => .ok a
  | none => .error (.unknownAction name)

/-- The answer to a question about settings. The bans are none, and there
is nothing to tell of them. -/
def Settings.answer (s : Settings) (q : Query) : Outcome Value :=
  match q with
  | .idle => .ok (.bool s.idle)
  | .paths => .ok (.strings (s.sources.map LogSource.path))
  | .ignored => .ok (.strings s.ignored.texts)
  | .fail => .ok (.strings s.patterns.failSources)
  | .ignore => .ok (.strings s.patterns.ignoreSources)
  | .findTime => .ok (.ofInt s.findTime)
  | .maxRetry => .ok (.ofNat s.maxRetry)
  | .banTime => .ok (.ofInt s.banTime)
  | .useDns => .ok (.str s.useDns.text)
  | .maxLines => .ok (.ofNat s.maxLines)
  | .ignoreCommand => .ok (.str s.ignoreCommand)
  | .charset => .ok (.str s.charset.name)
  | .datePattern => .ok (Value.ofOption
      (fun (pattern, name) => .strings [pattern, name]) s.datePattern)
  | .banned => .ok .null
  | .lastAction =>
    .ok (Value.ofOption .str (s.actions.map Action.name).getLast?)
  | .tag action key => do
    match (← s.action action).tag? key with
    | some value => .ok (.str value)
    | none => .error (.noTag key action)
  | .command role action => do return .str ((← s.action action).command role)

/-- Questions other than the one for the bans are about the settings. -/
theorem answer_eq_settings (j : Jail) {q : Query} (hq : q ≠ .banned) :
    j.answer q = j.settings.answer q := by
  cases q with
  | banned => exact absurd rfl hq
  | paths =>
      show Except.ok (Value.strings (j.filter.files.map Filter.LogFile.path))
        = .ok (.strings ((j.filter.files.map LogSource.of).map LogSource.path))
      rw [List.map_map]
      rfl
  | _ => rfl

-- ======================================================= what is changed

/-- The question that a change answers, if it answers with a value that
can be asked for. -/
def Change.query? : Change → Option Query
  | addIgnored _ | removeIgnored _ => some .ignored
  | addPath _ _ | removePath _ => some .paths
  | addFail _ | removeFail _ => some .fail
  | addIgnore _ | removeIgnore _ => some .ignore
  | findTime _ => some .findTime
  | maxRetry _ => some .maxRetry
  | banTime _ => some .banTime
  | useDns _ => some .useDns
  | maxLines _ => some .maxLines
  | ignoreCommand _ => some .ignoreCommand
  | charset _ => some .charset
  | datePattern _ => some .datePattern
  | addAction _ => some .lastAction
  | setTag action key _ => some (.tag action key)
  | setCommand role action _ => some (.command role action)
  | idle _ | ban _ | unban _ | removeAction _ | eraseTag _ _ => none

/-- The action that a question names. -/
def Query.action? : Query → Option String
  | tag action _ | command _ action => some action
  | _ => none

/-- A change has nothing to do with a question: it does not answer it, and
the question is neither for the bans nor about an action that the change
adds. -/
structure Change.Spares (c : Change) (q : Query) : Prop where
  answered : c.query? ≠ some q
  bans : q ≠ .banned
  added : ∀ name, c = .addAction name → q.action? ≠ some name

-- ================================================= the list of actions

section Altered

variable {name : String} {f : Action → Action} {s t : Settings}

/-- Where an action was changed in the list, it was there, and the changed
one is found under its name. -/
theorem action_alter_self (h : alter name f s.actions = .ok t.actions)
    (hf : ∀ a, (f a).name = a.name) :
    ∃ a, s.action name = .ok a ∧ t.action name = .ok (f a) := by
  unfold alter at h
  unfold Settings.action
  cases hfound : s.actions.find? (·.name == name) with
  | none => rw [hfound] at h; cases h
  | some a =>
      rw [hfound] at h
      injection h with h
      have ha : a.name = name := by simpa using List.find?_some hfound
      have hsame : ((fun b : Action => b.name == name)
          ∘ fun b => if b.name = (f a).name then f a else b)
          = fun b => b.name == name := by
        funext b
        by_cases hb : b.name = (f a).name <;> simp [hb]
      refine ⟨a, rfl, ?_⟩
      rw [← h, List.find?_map, hsame, hfound, Option.map_some,
        if_pos (hf a).symm]

/-- Under other names the same is found as before. -/
theorem action_alter_of_ne (h : alter name f s.actions = .ok t.actions)
    (hf : ∀ a, (f a).name = a.name) {other : String}
    (hother : other ≠ name) : t.action other = s.action other := by
  unfold alter at h
  unfold Settings.action
  cases hfound : s.actions.find? (·.name == name) with
  | none => rw [hfound] at h; cases h
  | some a =>
      rw [hfound] at h
      injection h with h
      have ha : a.name = name := by simpa using List.find?_some hfound
      have hkept : ∀ b : Action, b.name = other →
          (if b.name = (f a).name then f a else b) = b := by
        intro b hb
        rw [if_neg]
        rw [hf, ha, hb]
        exact hother
      have hsame : ((fun b : Action => b.name == other)
          ∘ fun b => if b.name = (f a).name then f a else b)
          = fun b => b.name == other := by
        funext b
        by_cases hb : b.name = (f a).name <;> simp [hb]
      rw [← h, List.find?_map, hsame]
      cases hb : s.actions.find? (·.name == other) with
      | none => rfl
      | some b =>
          have hname : b.name = other := by simpa using List.find?_some hb
          rw [Option.map_some, hkept b hname]

/-- The action that was added last is the same as before. -/
theorem answer_lastAction_alter
    (h : alter name f s.actions = .ok t.actions) :
    t.answer .lastAction = s.answer .lastAction := by
  have hnames : t.actions.map Action.name = s.actions.map Action.name := by
    unfold alter at h
    cases hfound : s.actions.find? (·.name == name) with
    | none => rw [hfound] at h; cases h
    | some a =>
        rw [hfound] at h
        injection h with h
        rw [← h, List.map_map]
        apply List.map_congr_left
        intro b _
        by_cases hb : b.name = (f a).name <;> simp [hb]
  unfold Settings.answer
  dsimp only
  rw [hnames]

/-- A question whose answer hangs on one action is answered as before,
where the change left what it asks of that action. -/
theorem answer_alter (h : alter name f s.actions = .ok t.actions)
    (hf : ∀ a, (f a).name = a.name) {action : String}
    {ask : Action → Outcome Value}
    (hask : action = name → ∀ a, ask (f a) = ask a) :
    (t.action action >>= ask) = (s.action action >>= ask) := by
  by_cases hsame : action = name
  · obtain ⟨a, hs, ht⟩ := action_alter_self h hf
    rw [hsame, hs, ht]
    exact hask hsame a
  · rw [action_alter_of_ne h hf hsame]

end Altered

-- ========================================================= the question

section Answered

variable {s t : Settings}

/-- An action that was added is the last one. -/
theorem answer_lastAction {name : String}
    (h : (Change.addAction name).effect s = .ok t) :
    t.answer .lastAction = .ok (.str name) := by
  unfold Change.effect at h
  dsimp only at h
  split at h
  case isTrue => cases h
  case isFalse =>
    injection h with h
    rw [← h]
    simp [Settings.answer, Value.ofOption]

/-- A tag that was set has its value. -/
theorem answer_tag {action key value : String}
    (h : (Change.setTag action key value).effect s = .ok t) :
    t.answer (.tag action key) = .ok (.str value) := by
  obtain ⟨actions, halter, rfl⟩ := Outcome.map_eq_ok.1 h
  obtain ⟨a, -, ht⟩ := action_alter_self (t := { s with actions }) halter
    fun _ => rfl
  unfold Settings.answer
  dsimp only
  rw [ht]
  show (match Action.TagMap.get? (Action.TagMap.put key value a.tags) key with
    | some v => _ | none => _) = _
  rw [Action.TagMap.get?_put_self]

/-- A template that was set is the one in force. -/
theorem answer_command {role : Action.Role} {action template : String}
    (h : (Change.setCommand role action template).effect s = .ok t) :
    t.answer (.command role action) = .ok (.str template) := by
  obtain ⟨actions, halter, rfl⟩ := Outcome.map_eq_ok.1 h
  obtain ⟨a, -, ht⟩ := action_alter_self (t := { s with actions }) halter
    fun _ => rfl
  unfold Settings.answer
  dsimp only
  rw [ht]
  exact congrArg (Except.ok ∘ Value.str)
    (Action.Templates.get_put_self a.templates role template)

variable {σ : Type} [Shell σ] {j j' : Jail} {h : Host σ} {c : Change}
  {q : Query}

/-- After a change its question is answered with the value that the change
answered with. -/
theorem answer_of_changed (hdone : (j.change c).result h = (.ok (), j'))
    (hq : c.query? = some q) : j'.answer q = .ok (c.reply j') := by
  have heffect := effect_settings hdone
  cases c with
  | idle on | ban source | unban source | removeAction name
  | eraseTag action key => cases hq
  | addAction name =>
      injection hq with hq
      rw [← hq, answer_eq_settings j' (by simp)]
      exact answer_lastAction heffect
  | setTag action key value =>
      injection hq with hq
      rw [← hq, answer_eq_settings j' (by simp)]
      exact answer_tag heffect
  | setCommand role action template =>
      injection hq with hq
      rw [← hq, answer_eq_settings j' (by simp)]
      exact answer_command heffect
  | _ => cases hq; rfl

end Answered

-- ================================================== all other questions

section Spared

variable {s t : Settings} {q : Query}

/-- Where an action was added, those of other names are what they were. -/
theorem action_addAction {name other : String}
    (h : (Change.addAction name).effect s = .ok t)
    (hother : other ≠ name) : t.action other = s.action other := by
  unfold Change.effect at h
  dsimp only at h
  split at h
  case isTrue => cases h
  case isFalse =>
    injection h with h
    rw [← h]
    unfold Settings.action
    dsimp only
    rw [List.find?_append]
    cases s.actions.find? (·.name == other) with
    | some a => rfl
    | none => simp [hother.symm]

/-- To add an action leaves the answers that are not about it. -/
theorem answer_addAction {name : String}
    (h : (Change.addAction name).effect s = .ok t)
    (hq : (Change.addAction name).Spares q) : t.answer q = s.answer q := by
  have hadded := hq.added name rfl
  cases q with
  | lastAction => exact absurd rfl hq.answered
  | tag action key =>
      unfold Settings.answer
      dsimp only
      rw [action_addAction h fun hsame => hadded (congrArg some hsame)]
  | command role action =>
      unfold Settings.answer
      dsimp only
      rw [action_addAction h fun hsame => hadded (congrArg some hsame)]
  | _ =>
      unfold Change.effect at h
      dsimp only at h
      split at h
      case isTrue => cases h
      case isFalse =>
        injection h with h
        rw [← h]
        rfl

/-- To set a tag of an action leaves the answers that are not about this
tag. -/
theorem answer_setTag {action key value : String}
    (h : (Change.setTag action key value).effect s = .ok t)
    (hne : q ≠ .tag action key) : t.answer q = s.answer q := by
  obtain ⟨actions, halter, ht⟩ := Outcome.map_eq_ok.1 h
  replace halter : alter action (·.setTag key value) s.actions
      = .ok t.actions := by
    rw [← ht]
    exact halter
  cases q with
  | lastAction => exact answer_lastAction_alter halter
  | tag other key' =>
      refine answer_alter halter (fun _ => rfl) fun hsame a => ?_
      have hkey : key' ≠ key := by
        rintro rfl
        exact hne (by rw [hsame])
      show (match (Action.TagMap.put key value a.tags).get? key' with
        | some v => _ | none => _) = _
      rw [Action.TagMap.get?_put_of_ne hkey]
      rfl
  | command role other =>
      exact answer_alter halter (fun _ => rfl) fun _ _ => rfl
  | _ => rw [← ht]; rfl

/-- To set a template of an action leaves the answers that are not about
this template. -/
theorem answer_setCommand {role : Action.Role} {action template : String}
    (h : (Change.setCommand role action template).effect s = .ok t)
    (hne : q ≠ .command role action) : t.answer q = s.answer q := by
  obtain ⟨actions, halter, ht⟩ := Outcome.map_eq_ok.1 h
  replace halter : alter action
      (fun a => (a.setCommand role template).value) s.actions
      = .ok t.actions := by
    rw [← ht]
    exact halter
  cases q with
  | lastAction => exact answer_lastAction_alter halter
  | tag other key =>
      exact answer_alter halter (fun _ => rfl) fun _ _ => rfl
  | command role' other =>
      refine answer_alter halter (fun _ => rfl) fun hsame a => ?_
      have hrole : role' ≠ role := by
        rintro rfl
        exact hne (by rw [hsame])
      exact congrArg (Except.ok ∘ Value.str)
        (Action.Templates.get_put_of_ne a.templates template hrole)
  | _ => rw [← ht]; rfl

/-- A new charset leaves the paths: the files are read by it, and are where
they were. -/
theorem answer_charset {label : String}
    (h : (Change.charset label).effect s = .ok t) (hne : q ≠ .charset) :
    t.answer q = s.answer q := by
  obtain ⟨charset, -, rfl⟩ := Outcome.map_eq_ok.1 h
  have hpaths : (s.sources.map ({ · with charset })).map LogSource.path
      = s.sources.map LogSource.path := by
    rw [List.map_map]
    rfl
  cases q with
  | paths => exact congrArg (Except.ok ∘ Value.strings) hpaths
  | charset => exact absurd rfl hne
  | _ => rfl

/-- A change that answers with a value leaves the answers to all questions
that it has nothing to do with. -/
theorem answer_of_effect {c : Change}
    (heffect : c.effect s = .ok t) (hc : c.query?.isSome)
    (hq : c.Spares q) : t.answer q = s.answer q := by
  have hne := hq.answered
  cases c with
  | idle on | ban source | unban source | removeAction name
  | eraseTag action key => cases hc
  | addIgnored entry | removeIgnored entry | addPath path tail
  | removePath path | findTime secs | maxRetry n | banTime secs
  | useDns mode | maxLines n | ignoreCommand command =>
      injection heffect with heffect
      rw [← heffect]
      cases q <;> first | rfl | exact absurd rfl hne
  | addFail pattern =>
      obtain ⟨patterns, hx, rfl⟩ := Outcome.map_eq_ok.1 heffect
      obtain ⟨line, rfl⟩ := Filter.Patterns.addFail_eq_ok hx
      cases q <;> first | rfl | exact absurd rfl hne
  | removeFail index =>
      obtain ⟨x, hx, rfl⟩ := Outcome.map_eq_ok.1 heffect
      obtain ⟨y, -, hx⟩ := Outcome.bind_eq_ok.1 hx
      injection hx with hx
      rw [← hx]
      cases q <;> first | rfl | exact absurd rfl hne
  | addIgnore pattern =>
      obtain ⟨patterns, hx, rfl⟩ := Outcome.map_eq_ok.1 heffect
      obtain ⟨line, -, hx⟩ := Outcome.bind_eq_ok.1 hx
      injection hx with hx
      rw [← hx]
      cases q <;> first | rfl | exact absurd rfl hne
  | removeIgnore index =>
      obtain ⟨x, hx, rfl⟩ := Outcome.map_eq_ok.1 heffect
      obtain ⟨y, -, hx⟩ := Outcome.bind_eq_ok.1 hx
      injection hx with hx
      rw [← hx]
      cases q <;> first | rfl | exact absurd rfl hne
  | datePattern pattern =>
      obtain ⟨template, -, rfl⟩ := Outcome.map_eq_ok.1 heffect
      cases q <;> first | rfl | exact absurd rfl hne
  | charset label => exact answer_charset heffect (hne <| congrArg some ·.symm)
  | addAction name => exact answer_addAction heffect hq
  | setTag action key value =>
      exact answer_setTag heffect (hne <| congrArg some ·.symm)
  | setCommand role action template =>
      exact answer_setCommand heffect (hne <| congrArg some ·.symm)

end Spared

end Gatewatch.Jail
