/-
A ban that races with its own unban.

# The account

Fix a source, and let a ban and an unban of it take their moves in any
order. What the roll goes through is one of five stories (`Ledger`): the
source is left alone, is banned, is freed, is banned and freed, or is
freed and banned again. Beside it stands what each side has left behind
(`Kept`): the mark of its change to the roll, and the commands of the
actions that had their turn, for the event of the ban that it entered or
took away. Every move keeps this account (`Account.step`), as long as no
action fails, and so does every run (`Account.run`).

# The law

In four of the five stories no source is left banned by an action but not
by the roll: the calls before the race leave none
(`banned_of_lastRun_past`), and whatever runs a ban command of an action
is followed by its unban command. The story left is that of a ban which
is freed while its commands are still being run. There the order of the
commands is up to the shell, and the ban is stranded exactly when the
unban command of an action has overtaken its ban command
(`ban_is_stranded_iff_overtaken`).
-/
import Gatewatch.Proofs.Ban.Pairing
import Gatewatch.Proofs.Ban.Turns
import Gatewatch.Shell.Script
import Mathlib.Data.List.Induction
import Mathlib.Data.List.Nodup
import Mathlib.Data.List.Perm.Subperm

namespace Gatewatch.Action

open Net (Address)

-- ========================================================== the ledger

namespace Mark

/-- The mark of the change to the roll that a side begins with. -/
def opening : Batch.Kind → Mark
  | .ban => .entered
  | .unban => .removed

/-- Whether a mark tells of the roll. -/
def isOfRoll : Mark → Bool
  | entered | removed | withdrawn => true
  | _ => false

/-- Whether a mark tells of a failure. -/
def isFailure : Mark → Bool
  | failed .. => true
  | _ => false

end Mark

/-- What the roll goes through: the marks, the event of the ban that the
source has in the end, and the event of the ban that was taken away. -/
inductive Ledger (o : Offence) (before : Option Ban.Event) :
    List Mark → Option Ban.Event → Option Ban.Event → Prop
  | untouched : Ledger o before [] before none
  | banned (free : before = none) :
      Ledger o before [.entered] (some (newEvent o)) none
  | freed {event : Ban.Event} (held : before = some event) :
      Ledger o before [.removed] none (some event)
  | undone (free : before = none) :
      Ledger o before [.entered, .removed] none (some (newEvent o))
  | renewed {event : Ban.Event} (held : before = some event) :
      Ledger o before [.removed, .entered] (some (newEvent o)) (some event)

namespace Ledger

variable {o : Offence} {before listed lifted : Option Ban.Event}
  {moves : List Mark}

/-- A source without a ban is banned. -/
theorem enter (h : Ledger o before moves listed lifted)
    (hfree : listed = none) (hnew : .entered ∉ moves) :
    Ledger o before (moves ++ [.entered]) (some (newEvent o)) lifted := by
  cases h with
  | untouched => exact .banned hfree
  | freed held => exact .renewed held
  | _ => simp at hnew

/-- A ban is taken away. -/
theorem remove {event : Ban.Event}
    (h : Ledger o before moves listed lifted)
    (hheld : listed = some event) (hnew : .removed ∉ moves) :
    Ledger o before (moves ++ [.removed]) none (some event) := by
  cases h with
  | untouched => exact .freed hheld
  | banned free =>
      obtain rfl := Option.some.inj hheld
      exact .undone free
  | _ => simp at hnew

end Ledger

-- ============================================== what a side leaves behind

/-- Whether a mark is left by a side. -/
def Mark.IsOf (kind : Batch.Kind) (m : Mark) : Prop :=
  m = opening kind ∨ ∃ a, m = .ran kind a

/-- No mark is left by both sides. -/
theorem Mark.not_isOf_other {m : Mark} {kind other : Batch.Kind}
    (hm : m.IsOf kind) (hother : other ≠ kind) : ¬ m.IsOf other := by
  intro hm'
  obtain rfl | ⟨a, rfl⟩ := hm
  · obtain h | ⟨b, h⟩ := hm' <;> cases kind <;> cases other
      <;> simp_all [opening]
  · obtain h | ⟨b, h⟩ := hm' <;> cases kind <;> cases other
      <;> simp_all [opening]

/-- A side has left nothing behind. -/
def Idle (kind : Batch.Kind) (marks : List Mark) : Prop :=
  ∀ m ∈ marks, ¬ m.IsOf kind

/-- A side has run the commands that some actions have for an event, and
no others. -/
def Ran (kind : Batch.Kind) (event : Ban.Event) (turned : List Action)
    (marks : List Mark) : Prop :=
  ∀ a, .ran kind a ∈ marks
    ↔ a ∈ turned ∧ a.hasCommand kind.role event = true

/-- What a side has left behind, as far as it has come. Its commands are
for the event of the ban that it entered or took away. -/
def Kept (actions : List Action) (kind : Batch.Kind)
    (event : Option Ban.Event) (marks : List Mark) : Progress → Prop
  | .ahead => Idle kind marks
  | .under e =>
    e.role = kind.role ∧ event = some e.ban.event
      ∧ (e.left = [] → e.done = true) ∧ .opening kind ∈ marks
      ∧ ∃ turned, actions = turned ++ e.left
        ∧ Ran kind e.ban.event turned marks
  | .returned =>
    Idle kind marks ∨ ∃ e, event = some e ∧ .opening kind ∈ marks
      ∧ Ran kind e actions marks

section Sides

variable {kind : Batch.Kind} {marks new : List Mark}

theorem Idle.opening_not_mem (h : Idle kind marks) :
    .opening kind ∉ marks := fun hm => h _ hm (.inl rfl)

theorem Idle.ran_not_mem (h : Idle kind marks) (a : Action) :
    .ran kind a ∉ marks := fun hm => h _ hm (.inr ⟨a, rfl⟩)

/-- Marks of others are none of a side's. -/
theorem Idle.append (h : Idle kind marks) (hnew : Idle kind new) :
    Idle kind (marks ++ new) := by
  intro m hm
  rcases List.mem_append.mp hm with hm | hm
  · exact h m hm
  · exact hnew m hm

theorem Ran.append {event : Ban.Event} {turned : List Action}
    (h : Ran kind event turned marks) (hnew : Idle kind new) :
    Ran kind event turned (marks ++ new) := by
  intro a
  rw [List.mem_append, or_iff_left (hnew.ran_not_mem a)]
  exact h a

theorem Kept.append {actions : List Action} {event : Option Ban.Event}
    {p : Progress} (h : Kept actions kind event marks p)
    (hnew : Idle kind new) :
    Kept actions kind event (marks ++ new) p := by
  cases p with
  | ahead => exact Idle.append h hnew
  | under e =>
      obtain ⟨hrole, hevent, hdone, hopen, turned, hturned, hran⟩ := h
      exact ⟨hrole, hevent, hdone, List.mem_append_left _ hopen, turned,
        hturned, hran.append hnew⟩
  | returned =>
      obtain h | ⟨e, hevent, hopen, hran⟩ := h
      · exact .inl (Idle.append h hnew)
      · exact .inr ⟨e, hevent, List.mem_append_left _ hopen,
          hran.append hnew⟩

end Sides

-- ========================================================= the account

/-- The event of the ban that a side is about. -/
def subject (o : Offence) (lifted : Option Ban.Event) :
    Batch.Kind → Option Ban.Event
  | .ban => some (newEvent o)
  | .unban => lifted

/-- The account of a race: what the roll went through, and what each side
has left behind. -/
structure Account (o : Offence) (actions : List Action)
    (before lifted : Option Ban.Event) (x : Race) (marks : List Mark) :
    Prop where
  unique : x.ward.roster.roll.Unique
  fixed : x.ward.roster.actions = actions
  nodup : marks.Nodup
  ledger : Ledger o before (marks.filter Mark.isOfRoll)
    ((x.ward.roster.roll.get? o.source).map Ban.event) lifted
  kept : ∀ kind, Kept actions kind (subject o lifted kind) marks
    (x.progress kind)

namespace Account

variable {o : Offence} {actions : List Action}
  {before lifted lifted' : Option Ban.Event} {x x' : Race}
  {marks new : List Mark} {kind : Batch.Kind} {p : Progress}

/-- The account before the first move. -/
theorem start {w : Ward} (hunique : w.roster.roll.Unique) :
    Account o w.roster.actions
      ((w.roster.roll.get? o.source).map Ban.event) none
      { ward := w } [] where
  unique := hunique
  fixed := rfl
  nodup := List.nodup_nil
  ledger := .untouched
  kept _ := fun _ hm => nomatch hm

theorem idle (acc : Account o actions before lifted x marks)
    (ahead : x.progress kind = .ahead) : Idle kind marks := by
  have hkept := acc.kept kind
  rwa [ahead] at hkept

theorem kept_under (acc : Account o actions before lifted x marks)
    {e : Errand} (under : x.progress kind = .under e) :
    Kept actions kind (subject o lifted kind) marks (.under e) := by
  rw [← under]
  exact acc.kept kind

/-- One side comes further, and the other one keeps what it has left. -/
theorem further (acc : Account o actions before lifted x marks)
    (hprogress : x'.progress = Function.update x.progress kind p)
    (hunique : x'.ward.roster.roll.Unique)
    (hfixed : x'.ward.roster.actions = actions)
    (hof : ∀ m ∈ new, m.IsOf kind)
    (hsubject : ∀ other ≠ kind,
      subject o lifted' other = subject o lifted other)
    (hnodup : (marks ++ new).Nodup)
    (hledger : Ledger o before ((marks ++ new).filter Mark.isOfRoll)
      ((x'.ward.roster.roll.get? o.source).map Ban.event) lifted')
    (hkept : Kept actions kind (subject o lifted' kind) (marks ++ new) p) :
    Account o actions before lifted' x' (marks ++ new) := by
  refine ⟨hunique, hfixed, hnodup, hledger, fun other => ?_⟩
  rw [hprogress]
  by_cases hother : other = kind
  · subst hother
    rw [Function.update_self]
    exact hkept
  · rw [Function.update_of_ne hother, hsubject other hother]
    exact (acc.kept other).append fun m hm =>
      Mark.not_isOf_other (hof m hm) hother

/-- One side begins, with a change to the roll. -/
theorem opens (acc : Account o actions before lifted x marks) (b : Ban)
    (ahead : x.progress kind = .ahead)
    (hprogress : x'.progress = Function.update x.progress kind
      (.under (.setOut kind.role b actions)))
    (hunique : x'.ward.roster.roll.Unique)
    (hfixed : x'.ward.roster.actions = actions)
    (hsubject : subject o lifted' kind = some b.event)
    (hothers : ∀ other ≠ kind,
      subject o lifted' other = subject o lifted other)
    (hledger : .opening kind ∉ marks.filter Mark.isOfRoll →
      Ledger o before (marks.filter Mark.isOfRoll ++ [.opening kind])
        ((x'.ward.roster.roll.get? o.source).map Ban.event) lifted') :
    Account o actions before lifted' x' (marks ++ [.opening kind]) := by
  have hidle := acc.idle ahead
  have hnew := hidle.opening_not_mem
  have hmoves : (marks ++ [Mark.opening kind]).filter Mark.isOfRoll
      = marks.filter Mark.isOfRoll ++ [.opening kind] := by
    rw [List.filter_append]
    cases kind <;> rfl
  refine acc.further hprogress hunique hfixed ?_ hothers ?_ ?_ ?_
  · intro m hm
    exact .inl (List.mem_singleton.mp hm)
  · simpa using List.Nodup.concat hnew acc.nodup
  · rw [hmoves]
    exact hledger fun hm => hnew (List.mem_filter.mp hm).1
  · refine ⟨rfl, hsubject, List.isEmpty_iff.mpr, by simp, [], rfl,
      fun a => ?_⟩
    have hran := hidle.ran_not_mem a
    cases kind <;> simp [hran, Mark.opening]

/-- One side comes further, without a change to the roll. -/
theorem aside (acc : Account o actions before lifted x marks)
    (hprogress : x'.progress = Function.update x.progress kind p)
    (hfixed : x'.ward.roster.actions = x.ward.roster.actions)
    (hevents : x'.ward.roster.roll.events = x.ward.roster.roll.events)
    (hof : ∀ m ∈ new, m.IsOf kind ∧ m.isOfRoll = false)
    (hnodup : (marks ++ new).Nodup)
    (hkept : Kept actions kind (subject o lifted kind) (marks ++ new) p) :
    Account o actions before lifted x' (marks ++ new) := by
  have hmoves : (marks ++ new).filter Mark.isOfRoll
      = marks.filter Mark.isOfRoll := by
    have hnone : new.filter Mark.isOfRoll = [] :=
      List.filter_eq_nil_iff.mpr fun m hm => by simp [(hof m hm).2]
    rw [List.filter_append, hnone, List.append_nil]
  refine acc.further hprogress (acc.unique.of_events hevents)
    (hfixed.trans acc.fixed) (fun m hm => (hof m hm).1) (fun _ _ => rfl)
    hnodup ?_ hkept
  rw [hmoves, event_get?_congr hevents]
  exact acc.ledger

/-- One side comes further, and leaves no mark. -/
theorem quiet (acc : Account o actions before lifted x marks)
    (hprogress : x'.progress = Function.update x.progress kind p)
    (hfixed : x'.ward.roster.actions = x.ward.roster.actions)
    (hevents : x'.ward.roster.roll.events = x.ward.roster.roll.events)
    (hkept : Kept actions kind (subject o lifted kind) marks p) :
    Account o actions before lifted x' (marks ++ []) := by
  refine acc.aside hprogress hfixed hevents (by simp) ?_ ?_
  · rw [List.append_nil]
    exact acc.nodup
  · rw [List.append_nil]
    exact hkept

/-- A ban is entered. -/
theorem enter (acc : Account o actions before lifted x marks) {b : Ban}
    (ahead : x.progress .ban = .ahead) (hsource : b.source = o.source)
    (hevent : b.event = newEvent o)
    (habsent : x.ward.roster.roll.get? o.source = none) :
    Account o actions before lifted
      ((x.withRoster { x.ward.roster with
          roll := (x.ward.roster.roll.add b).2 }).come .ban
        (.under (.setOut .ban b x.ward.roster.actions)))
      (marks ++ [.entered]) := by
  have hlisted : ((x.ward.roster.roll.add b).2.get? o.source).map Ban.event
      = some (newEvent o) := by
    rw [← hsource, get?_add_of_absent (hsource ▸ habsent), if_pos rfl,
      Option.map_some, hevent]
  refine acc.opens b ahead ?_ (acc.unique.add b) acc.fixed ?_ ?_
    fun hnew => ?_
  · rw [← acc.fixed]
    rfl
  · rw [hevent]
    rfl
  · intro other hother
    cases other with
    | ban => exact absurd rfl hother
    | unban => rfl
  · show Ledger o before _
      (((x.ward.roster.roll.add b).2.get? o.source).map Ban.event) lifted
    rw [hlisted]
    exact acc.ledger.enter (by rw [habsent]; rfl) hnew

/-- A ban is taken away. -/
theorem remove (acc : Account o actions before lifted x marks) {b : Ban}
    (ahead : x.progress .unban = .ahead)
    (hpresent : x.ward.roster.roll.get? o.source = some b) :
    Account o actions before (some b.event)
      ((x.withRoster { x.ward.roster with
          roll := x.ward.roster.roll.keep fun b =>
            !(b.source == o.source) }).come .unban
        (.under (.setOut .unban b x.ward.roster.actions)))
      (marks ++ [.removed]) := by
  have hlisted : ((x.ward.roster.roll.keep fun b =>
      !(b.source == o.source)).get? o.source).map Ban.event = none := by
    rw [Ban.Roll.get?_keep acc.unique, hpresent]
    simp [Ban.Roll.source_of_get? hpresent]
  refine acc.opens b ahead ?_ (acc.unique.keep _) acc.fixed rfl ?_
    fun hnew => ?_
  · rw [← acc.fixed]
    rfl
  · intro other hother
    cases other with
    | ban => rfl
    | unban => exact absurd rfl hother
  · show Ledger o before _ (((x.ward.roster.roll.keep fun b =>
      !(b.source == o.source)).get? o.source).map Ban.event) _
    rw [hlisted]
    exact acc.ledger.remove (by rw [hpresent]; rfl) hnew

/-- An action ends its turn. -/
theorem act (acc : Account o actions before lifted x marks)
    (hdistinct : actions.Nodup) {e : Errand} {a : Action}
    {rest : List Action} (under : x.progress kind = .under e)
    (left : e.left = a :: rest) :
    Account o actions before lifted
      (x.come kind (.under ⟨e.role, e.ban, rest, .check, true⟩))
      (marks
        ++ if a.hasCommand e.role e.ban.event then [.ran kind a] else []) := by
  obtain ⟨hrole, hevent, -, hopen, turned, hturned, hran⟩ :=
    acc.kept_under under
  rw [left] at hturned
  have hnew : a ∉ turned := by
    intro hmem
    rw [hturned, List.nodup_append] at hdistinct
    exact hdistinct.2.2 a hmem a (List.mem_cons_self ..) rfl
  refine acc.aside rfl rfl rfl ?_ ?_ ?_
  · intro m hm
    split at hm
    · obtain rfl := List.mem_singleton.mp hm
      exact ⟨.inr ⟨a, rfl⟩, rfl⟩
    · cases hm
  · split
    · have hnever : Mark.ran kind a ∉ marks := fun hm =>
        hnew ((hran a).mp hm).1
      simpa using List.Nodup.concat hnever acc.nodup
    · simpa using acc.nodup
  · refine ⟨hrole, hevent, fun _ => rfl, List.mem_append_left _ hopen,
      turned ++ [a], by simp [hturned], fun c => ?_⟩
    rw [List.mem_append, hran c, List.mem_append, List.mem_singleton,
      ← hrole]
    by_cases hc : c = a
    · subst hc
      by_cases hcommand : c.hasCommand e.role e.ban.event = true
        <;> simp [hcommand]
    · by_cases hcommand : a.hasCommand e.role e.ban.event = true
        <;> simp [hcommand, hc]

/-- Every turn keeps the account, as long as no action fails. -/
theorem step (acc : Account o actions before lifted x marks)
    (hdistinct : actions.Nodup) (hturn : Turn o x new x')
    (hok : ∀ m ∈ new, m.isFailure = false) :
    ∃ lifted', Account o actions before lifted' x' (marks ++ new) := by
  cases hturn with
  | rest => exact ⟨lifted, by rwa [List.append_nil]⟩
  | refused ahead hactions hevents =>
      exact ⟨lifted,
        acc.quiet rfl hactions hevents (.inl (acc.idle ahead))⟩
  | entered ahead hsource hevent habsent =>
      exact ⟨lifted, acc.enter ahead hsource hevent habsent⟩
  | missed ahead =>
      exact ⟨lifted, acc.quiet rfl rfl rfl (.inl (acc.idle ahead))⟩
  | removed ahead hpresent => exact ⟨_, acc.remove ahead hpresent⟩
  | staged under some =>
      obtain ⟨hrole, hevent, -, hturned⟩ := acc.kept_under under
      exact ⟨lifted, acc.quiet rfl rfl rfl
        ⟨hrole, hevent, fun h => absurd h some, hturned⟩⟩
  | acted under left => exact ⟨lifted, acc.act hdistinct under left⟩
  | failed hfailed => cases hok _ hfailed
  | closed under none =>
      obtain ⟨-, hevent, -, hopen, turned, hturned, hran⟩ :=
        acc.kept_under under
      rw [none, List.append_nil] at hturned
      subst hturned
      exact ⟨lifted,
        acc.quiet rfl rfl rfl (.inr ⟨_, hevent, hopen, hran⟩)⟩
  | withdrawn under none undone =>
      -- without a failure there is nothing to take back
      obtain ⟨-, -, hdone, -⟩ := acc.kept_under under
      rw [hdone none] at undone
      cases undone

/-- Every run of moves keeps the account, as long as no action fails. -/
theorem run {σ : Type} [Shell σ]
    (acc : Account o actions before lifted x marks)
    (hdistinct : actions.Nodup) (turns : List Batch.Kind) (h : Host σ)
    (hok : ∀ m ∈ ((x.go o turns).result h).2, m.isFailure = false) :
    ∃ lifted', Account o actions before lifted'
      ((x.go o turns).result h).1
      (marks ++ ((x.go o turns).result h).2) := by
  induction turns generalizing x marks lifted h with
  | nil => exact ⟨lifted, by simpa [Race.go] using acc⟩
  | cons kind rest ih =>
      simp only [Race.go, Work.result_bind, Work.result_pure] at hok ⊢
      obtain ⟨_, hstep⟩ := acc.step hdistinct
        (Race.move_turn acc.unique kind h) fun m hm =>
          hok m (List.mem_append_left _ hm)
      obtain ⟨lifted', hrun⟩ := ih hstep _ fun m hm =>
        hok m (List.mem_append_right _ hm)
      exact ⟨lifted', by rwa [List.append_assoc] at hrun⟩

end Account

-- ==================================================== the last command

namespace Mark

/-- Which command of an action a mark tells of. -/
def ranBy? (a : Action) : Mark → Option Batch.Kind
  | ran kind b => if b = a then some kind else none
  | _ => none

theorem ranBy?_eq_some {a : Action} {m : Mark} {kind : Batch.Kind} :
    m.ranBy? a = some kind ↔ m = .ran kind a := by
  cases m with
  | ran kind' b => by_cases hb : b = a <;> simp [ranBy?, hb]
  | _ => simp [ranBy?]

/-- The last ban command or unban command of an action. -/
def lastRun (a : Action) (marks : List Mark) : Option Batch.Kind :=
  (marks.filterMap (ranBy? a)).getLast?

theorem lastRun_append (a : Action) (past marks : List Mark) :
    lastRun a (past ++ marks) = (lastRun a marks).or (lastRun a past) := by
  unfold lastRun
  rw [List.filterMap_append, List.getLast?_append]

variable {a : Action} {marks : List Mark}

theorem mem_runs {kind : Batch.Kind} :
    kind ∈ marks.filterMap (ranBy? a) ↔ .ran kind a ∈ marks := by
  simp [List.mem_filterMap, ranBy?_eq_some]

theorem ran_mem_of_lastRun {kind : Batch.Kind}
    (h : lastRun a marks = some kind) : .ran kind a ∈ marks :=
  mem_runs.mp (List.mem_of_getLast? h)

theorem lastRun_eq_none_iff :
    lastRun a marks = none ↔ ∀ kind, .ran kind a ∉ marks := by
  unfold lastRun
  rw [List.getLast?_eq_none_iff, List.eq_nil_iff_forall_not_mem]
  simp only [mem_runs]

/-- The commands of an action are found in the order of their marks. -/
theorem runs_sublist (a : Action) (marks : List Mark) :
    ((marks.filterMap (ranBy? a)).map (ran · a)).Sublist marks := by
  induction marks with
  | nil => exact .slnil
  | cons m rest ih =>
      cases hm : m.ranBy? a with
      | none =>
          rw [List.filterMap_cons_none hm]
          exact ih.cons _
      | some kind =>
          rw [List.filterMap_cons_some hm, ranBy?_eq_some.mp hm]
          exact ih.cons_cons _

/-- A ban command that comes last has been overtaken by every unban
command of its action. -/
theorem overtaken_of_lastRun (hlast : lastRun a marks = some .ban)
    (hunban : .ran .unban a ∈ marks) :
    [.ran .unban a, .ran .ban a].Sublist marks := by
  obtain ⟨init, hinit⟩ := List.getLast?_eq_some_iff.mp hlast
  have hmem : Batch.Kind.unban ∈ init := by
    have hmem := mem_runs.mpr hunban
    rw [hinit, List.mem_append] at hmem
    simpa using hmem
  have hruns : [Batch.Kind.unban, .ban].Sublist
      (marks.filterMap (ranBy? a)) := by
    rw [hinit]
    exact (List.singleton_sublist.mpr hmem).append (.refl [_])
  exact (hruns.map (ran · a)).trans (runs_sublist a marks)

/-- A ban command that was overtaken comes last, when no command is run
twice. -/
theorem lastRun_of_overtaken (hnodup : marks.Nodup)
    (h : [.ran .unban a, .ran .ban a].Sublist marks) :
    lastRun a marks = some .ban := by
  have hruns : [Batch.Kind.unban, .ban].Sublist
      (marks.filterMap (ranBy? a)) := by
    simpa [ranBy?] using h.filterMap (ranBy? a)
  have honce : (marks.filterMap (ranBy? a)).Nodup :=
    hnodup.filterMap fun m m' kind hm hm' => by
      rw [ranBy?_eq_some.mp hm, ranBy?_eq_some.mp hm']
  have hboth : marks.filterMap (ranBy? a) ⊆ [.unban, .ban] := by
    intro kind _
    cases kind <;> simp
  have heq := hruns.eq_of_length_le
    (List.subperm_of_subset honce hboth).length_le
  unfold lastRun
  rw [← heq]
  rfl

end Mark

-- ================================================== before the race

/-- A batch has not failed if none of its actions has. -/
theorem Batch.not_failed {x : Batch} (h : false ∉ x.results) :
    x.failed = false := by
  unfold failed
  cases hresults : x.results with
  | nil => rfl
  | cons done rest =>
      cases done with
      | true => rfl
      | false => exact absurd (by simp [hresults]) h

/-- What is seen of batches in which no action fails. -/
def pastMarks (actions : List Action) (bs : List Batch) : List Mark :=
  bs.flatMap fun x => Batch.marks x.kind x.event actions

theorem ran_mem_marks {kind kind' : Batch.Kind} {event : Ban.Event}
    {actions : List Action} {a : Action} :
    .ran kind' a ∈ Batch.marks kind event actions
      ↔ kind' = kind ∧ a ∈ actions
        ∧ a.hasCommand kind.role event = true := by
  simp only [Batch.marks, List.mem_map, List.mem_filter, Mark.ran.injEq]
  constructor
  · rintro ⟨b, ⟨hmem, hcommand⟩, rfl, rfl⟩
    exact ⟨rfl, hmem, hcommand⟩
  · rintro ⟨rfl, hmem, hcommand⟩
    exact ⟨a, ⟨hmem, hcommand⟩, rfl, rfl⟩

/-- The last command of an action in a batch is that of the batch, if the
action has one. -/
theorem lastRun_marks {kind : Batch.Kind} {event : Ban.Event}
    {actions : List Action} {a : Action} (ha : a ∈ actions) :
    Mark.lastRun a (Batch.marks kind event actions)
      = if a.hasCommand kind.role event then some kind else none := by
  split
  case isTrue hcommand =>
    cases hlast : Mark.lastRun a (Batch.marks kind event actions) with
    | none =>
        exact absurd (ran_mem_marks.mpr ⟨rfl, ha, hcommand⟩)
          (Mark.lastRun_eq_none_iff.mp hlast kind)
    | some kind' =>
        rw [(ran_mem_marks.mp (Mark.ran_mem_of_lastRun hlast)).1]
  case isFalse hcommand =>
    exact Mark.lastRun_eq_none_iff.mpr fun kind' hm =>
      hcommand (ran_mem_marks.mp hm).2.2

/-- When calls were made one after the other and no action failed, an
action that ran a ban command last has banned what stands. -/
theorem banned_of_lastRun_past {actions : List Action} {a : Action}
    (ha : a ∈ actions)
    (hundo : ∀ event, a.hasCommand .ban event = true →
      a.hasCommand .unban event = true)
    {bs : List Batch} (hbs : Alternates bs)
    (hok : ∀ x ∈ bs, x.failed = false)
    (hlast : Mark.lastRun a (pastMarks actions bs) = some .ban) :
    ∃ event, standing bs = some event
      ∧ a.hasCommand .ban event = true := by
  induction bs using List.reverseRecOn with
  | nil => cases hlast
  | append_singleton p x ih =>
      have hp : Alternates p := fun q y r h => by
        refine hbs q y (r ++ [x]) ?_
        rw [h, List.append_assoc, List.cons_append]
      have hmarks : pastMarks actions (p ++ [x]) = pastMarks actions p
          ++ Batch.marks x.kind x.event actions := by
        simp [pastMarks]
      rw [hmarks, Mark.lastRun_append, lastRun_marks ha] at hlast
      by_cases hcommand : a.hasCommand x.kind.role x.event = true
      · -- the action ran the command of this batch, which banned
        rw [if_pos hcommand, Option.some_or, Option.some.injEq] at hlast
        refine ⟨x.event, ?_, ?_⟩
        · rw [standing_snoc, if_pos ⟨hlast, hok x (by simp)⟩]
        · rw [hlast] at hcommand
          exact hcommand
      · -- the action ran nothing, and banned what stood before
        rw [if_neg hcommand, Option.none_or] at hlast
        obtain ⟨event, hstand, hban⟩ := ih hp
          (fun y hy => hok y (List.mem_append_left _ hy)) hlast
        have hx := hbs p x [] rfl
        cases hkind : x.kind with
        | ban =>
            rw [hkind] at hx
            cases hstand.symm.trans hx
        | unban =>
            rw [hkind] at hx hcommand
            have hevent : event = x.event :=
              Option.some.inj (hstand.symm.trans hx)
            exact absurd (hevent ▸ hundo event hban) hcommand

-- ============================================================ the law

/-- Whether both calls have returned. -/
def Race.isOver (x : Race) : Bool :=
  match x.progress .ban, x.progress .unban with
  | .returned, .returned => true
  | _, _ => false

theorem Race.returned_of_isOver {x : Race} (h : x.isOver = true)
    (kind : Batch.Kind) : x.progress kind = .returned := by
  unfold isOver at h
  split at h
  case h_1 hban hunban =>
    cases kind with
    | ban => exact hban
    | unban => exact hunban
  case h_2 => cases h

namespace Account

variable {o : Offence} {actions : List Action}
  {before lifted : Option Ban.Event} {x : Race} {marks : List Mark}
  {kind : Batch.Kind}

/-- A side that has not begun has run nothing in the end. -/
theorem idle_of_isOver (acc : Account o actions before lifted x marks)
    (hover : x.isOver = true) (hclosed : .opening kind ∉ marks) :
    Idle kind marks := by
  have hkept := acc.kept kind
  rw [Race.returned_of_isOver hover kind] at hkept
  obtain h | ⟨_, -, hopen, -⟩ := hkept
  · exact h
  · exact absurd hopen hclosed

/-- A side that has begun has run all its commands in the end. -/
theorem ran_of_isOver (acc : Account o actions before lifted x marks)
    (hover : x.isOver = true) (hopen : .opening kind ∈ marks) :
    ∃ event, subject o lifted kind = some event
      ∧ Ran kind event actions marks := by
  have hkept := acc.kept kind
  rw [Race.returned_of_isOver hover kind] at hkept
  obtain h | ⟨event, hevent, -, hran⟩ := hkept
  · exact absurd hopen h.opening_not_mem
  · exact ⟨event, hevent, hran⟩

/-- What the roll went through in order is what was seen of it. -/
theorem moves_sublist_iff (marks : List Mark) {m m' : Mark}
    (hm : m.isOfRoll = true) (hm' : m'.isOfRoll = true) :
    [m, m'].Sublist (marks.filter Mark.isOfRoll)
      ↔ [m, m'].Sublist marks := by
  constructor
  · exact fun h => h.trans List.filter_sublist
  · intro h
    have hfilter := h.filter Mark.isOfRoll
    rwa [List.filter_eq_self.mpr (by simp [hm, hm'])] at hfilter

/-- In the end the ban command of an action comes last, and the source is
not listed, exactly when a ban was freed under way and its unban command
has overtaken the ban command. -/
theorem stranded_iff (acc : Account o actions before lifted x marks)
    (hover : x.isOver = true) {past : List Mark} {a : Action}
    (ha : a ∈ actions)
    (hundo : ∀ event, a.hasCommand .ban event = true →
      a.hasCommand .unban event = true)
    (hpast : Mark.lastRun a past = some .ban →
      ∃ event, before = some event ∧ a.hasCommand .ban event = true) :
    x.ward.roster.roll.contains o.source = false
        ∧ Mark.lastRun a (past ++ marks) = some .ban
      ↔ [.entered, .removed].Sublist marks
        ∧ [.ran .unban a, .ran .ban a].Sublist marks := by
  have hlisted : x.ward.roster.roll.contains o.source
      = ((x.ward.roster.roll.get? o.source).map Ban.event).isSome := by
    rw [Ban.Roll.contains_eq, Option.isSome_map]
  have hopening : ∀ kind, .opening kind ∈ marks
      ↔ .opening kind ∈ marks.filter Mark.isOfRoll := by
    intro kind
    rw [List.mem_filter]
    cases kind <;> simp [Mark.opening, Mark.isOfRoll]
  have hledger := acc.ledger
  rw [hlisted, ← moves_sublist_iff marks rfl rfl,
    Mark.lastRun_append]
  generalize marks.filter Mark.isOfRoll = moves at hopening hledger ⊢
  generalize (x.ward.roster.roll.get? o.source).map Ban.event = listed
    at hledger ⊢
  cases hledger with
  | untouched =>
      have hidle : ∀ kind, Idle kind marks := fun kind =>
        acc.idle_of_isOver hover (by simp [hopening])
      have hnone : Mark.lastRun a marks = none :=
        Mark.lastRun_eq_none_iff.mpr fun kind => (hidle kind).ran_not_mem a
      refine ⟨?_, fun h => nomatch h.1⟩
      rintro ⟨hfree, hlast⟩
      rw [hnone, Option.none_or] at hlast
      obtain ⟨event, hheld, -⟩ := hpast hlast
      rw [hheld] at hfree
      cases hfree
  | banned =>
      exact ⟨fun h => absurd h.1 (by simp), fun h => absurd h.1 (by decide)⟩
  | @freed event hheld =>
      have hidle : Idle .ban marks := acc.idle_of_isOver hover fun hm =>
        absurd ((hopening .ban).mp hm) (by decide)
      obtain ⟨_, ⟨⟩, hran⟩ := acc.ran_of_isOver hover
        ((hopening .unban).mpr (by decide))
      refine ⟨?_, fun h => absurd h.1 (by decide)⟩
      rintro ⟨-, hlast⟩
      cases hlast' : Mark.lastRun a marks with
      | some kind =>
          rw [hlast', Option.some_or] at hlast
          cases hlast
          exact absurd (Mark.ran_mem_of_lastRun hlast') (hidle.ran_not_mem a)
      | none =>
          -- the ban command that came last was for the ban that was freed
          rw [hlast', Option.none_or] at hlast
          obtain ⟨event', hheld', hban⟩ := hpast hlast
          obtain rfl := Option.some.inj (hheld.symm.trans hheld')
          exact absurd ((hran a).mpr ⟨ha, hundo event hban⟩)
            (Mark.lastRun_eq_none_iff.mp hlast' .unban)
  | undone hfree =>
      obtain ⟨_, ⟨⟩, hran⟩ := acc.ran_of_isOver hover
        ((hopening .ban).mpr (by decide))
      obtain ⟨_, ⟨⟩, hran'⟩ := acc.ran_of_isOver hover
        ((hopening .unban).mpr (by decide))
      constructor
      · rintro ⟨-, hlast⟩
        refine ⟨.refl _, ?_⟩
        cases hlast' : Mark.lastRun a marks with
        | none =>
            rw [hlast', Option.none_or] at hlast
            obtain ⟨event, hheld, -⟩ := hpast hlast
            rw [hfree] at hheld
            cases hheld
        | some kind =>
            rw [hlast', Option.some_or] at hlast
            cases hlast
            have hban := ((hran a).mp (Mark.ran_mem_of_lastRun hlast')).2
            exact Mark.overtaken_of_lastRun hlast'
              ((hran' a).mpr ⟨ha, hundo _ hban⟩)
      · rintro ⟨-, hovertaken⟩
        refine ⟨rfl, ?_⟩
        rw [Mark.lastRun_of_overtaken acc.nodup hovertaken, Option.some_or]
  | renewed =>
      exact ⟨fun h => absurd h.1 (by simp), fun h => absurd h.1 (by decide)⟩

end Account

/-- A ban that races with its own unban. Whatever calls were made before
one after the other, in whatever order a ban and an unban of a source
take their moves then, and whatever the shell does: when no action fails
and both calls have returned, the source is listed or no action has run a
ban command for it last, except that the ban of the race was freed under
way and the unban command of some action has overtaken its ban command.

An action that has a command to ban is supposed to have one to unban. -/
theorem ban_is_stranded_iff_overtaken {σ : Type} [Shell σ]
    (jail : String) (actions : List Action) (hdistinct : actions.Nodup)
    (hundo : ∀ a ∈ actions, ∀ event, a.hasCommand .ban event = true →
      a.hasCommand .unban event = true)
    (banTime : Int) (table : Option Offence.Table) (calls : List Call)
    (o : Offence) (turns : List Batch.Kind) (h h' : Host σ) :
    let start : Ward :=
      { roster := { jail, actions, roll := { banTime } }, table }
    let before := (Call.watchAll start calls).result h
    let batches := batchesOf o.source before.2
    let race := (Race.go o { ward := before.1 } turns).result h'
    let marks := pastMarks actions batches ++ race.2
    (∀ x ∈ batches, false ∉ x.results) →
    (∀ m ∈ race.2, m.isFailure = false) →
    race.1.isOver = true →
    ((race.1.ward.roster.roll.contains o.source = true
        ∨ ∀ a ∈ actions, Mark.lastRun a marks ≠ some .ban)
      ↔ ¬ ([.entered, .removed].Sublist race.2
        ∧ ∃ a ∈ actions, [.ran .unban a, .ran .ban a].Sublist race.2)) := by
  intro start before batches race marks hpast hok hover
  have hbooks : Books before.1.roster.roll before.2 :=
    (books_init 0 banTime).run (w := start) calls h
  have hfixed : before.1.roster.actions = actions :=
    (Call.watchAll_actions start calls h).1
  obtain ⟨lifted, acc⟩ := (Account.start (o := o) hbooks.unique).run
    (hfixed ▸ hdistinct) turns h' hok
  rw [hfixed, ← hbooks.listed, List.nil_append] at acc
  have hcarried : ∀ x ∈ batches, x.failed = false := fun x hx =>
    Batch.not_failed (hpast x hx)
  have hlaw := fun a (ha : a ∈ actions) =>
    acc.stranded_iff hover ha (hundo a ha) fun hlast =>
      banned_of_lastRun_past ha (hundo a ha) (hbooks.alternates _)
        hcarried hlast
  constructor
  · rintro hsafe ⟨hundone, a, ha, hovertaken⟩
    obtain ⟨hfree, hlast⟩ := (hlaw a ha).mpr ⟨hundone, hovertaken⟩
    obtain hlisted | hnone := hsafe
    · exact absurd hlisted (by simp [race, hfree])
    · exact hnone a ha hlast
  · intro hnever
    cases hlisted : race.1.ward.roster.roll.contains o.source with
    | true => exact .inl rfl
    | false =>
        refine .inr fun a ha hlast => ?_
        obtain ⟨hundone, hovertaken⟩ := (hlaw a ha).mp ⟨hlisted, hlast⟩
        exact hnever ⟨hundone, a, ha, hovertaken⟩

/-- An action with a command for both. -/
def firewall : Action where
  name := "fw"
  templates := { ban := "block <ip>", unban := "free <ip>" }

/-- An offence of a host. -/
def attack : Offence where
  source := .ofHost .v4 0x01020304
  time := 100

theorem firewall_undoes (a : Action) (ha : a ∈ [firewall])
    (event : Ban.Event) (_ : a.hasCommand .ban event = true) :
    a.hasCommand .unban event = true := by
  obtain rfl := List.mem_singleton.mp ha
  exact hasCommand_of_begins rfl (show _ = 'f' :: _ from rfl) (by decide)
    (by decide) event

/-- Surroundings without files, in which every command succeeds. -/
def obliging : Host Script := { now := 100, files := .initial, shell := {} }

/-- The unban comes behind the ban, after a ban that was lifted. -/
theorem unban_behind_ban :
    [firewall].Nodup
      ∧ (∀ a ∈ [firewall], ∀ event, a.hasCommand .ban event = true →
        a.hasCommand .unban event = true)
      ∧ let start : Ward :=
          { roster := { jail := "ssh", actions := [firewall] }, table := none }
        let before := (Call.watchAll start
          [.ban attack, .unban attack.source]).result obliging
        let batches := batchesOf attack.source before.2
        let race := (Race.go attack { ward := before.1 }
          [.ban, .ban, .unban, .ban, .unban, .unban, .unban, .ban]).result
            obliging
        let marks := pastMarks [firewall] batches ++ race.2
        (∀ x ∈ batches, false ∉ x.results)
          ∧ (∀ m ∈ race.2, m.isFailure = false)
          ∧ race.1.isOver = true
          ∧ ((race.1.ward.roster.roll.contains attack.source = true
              ∨ ∀ a ∈ [firewall], Mark.lastRun a marks ≠ some .ban)
            ↔ ¬ ([.entered, .removed].Sublist race.2
              ∧ ∃ a ∈ [firewall],
                [.ran .unban a, .ran .ban a].Sublist race.2)) := by
  refine ⟨by simp, firewall_undoes, ?_⟩
  have hlaw := ban_is_stranded_iff_overtaken "ssh" [firewall] (by simp)
    firewall_undoes 600 none [.ban attack, .unban attack.source] attack
    [.ban, .ban, .unban, .ban, .unban, .unban, .unban, .ban]
    obliging obliging
  dsimp only at hlaw ⊢
  generalize hbefore : (Call.watchAll _ _ : Work Script _).result _ = before
    at hlaw ⊢
  generalize hrace : (Race.go _ _ _ : Work Script _).result _ = race
    at hlaw ⊢
  have hpast : ∀ x ∈ batchesOf attack.source before.2,
      false ∉ x.results := by
    rw [← hbefore]
    decide +kernel
  have hok : ∀ m ∈ race.2, m.isFailure = false := by
    rw [← hrace, ← hbefore]
    decide +kernel
  have hover : race.1.isOver = true := by
    rw [← hrace, ← hbefore]
    decide +kernel
  exact ⟨hpast, hok, hover, hlaw hpast hok hover⟩

/-- The unban overtakes the ban: its command is run first, and in the end
the firewall blocks a source that the roll does not list. -/
theorem overtaken_ban_is_stranded :
    let start : Ward :=
      { roster := { jail := "ssh", actions := [firewall] }, table := none }
    let race := Race.go attack { ward := start }
      [.ban, .unban, .unban, .unban, .unban, .ban, .ban, .ban]
    (race.result obliging).1.isOver = true
      ∧ (∀ m ∈ (race.result obliging).2, m.isFailure = false)
      ∧ (race.after obliging).shell.commands
        = ["free 1.2.3.4", "block 1.2.3.4"]
      ∧ (race.result obliging).1.ward.roster.roll.contains attack.source
        = false
      ∧ Mark.lastRun firewall (race.result obliging).2 = some .ban := by
  decide +kernel

end Gatewatch.Action
