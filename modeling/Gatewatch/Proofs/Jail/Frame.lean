/-
What the commands of actions leave alone: a command sees the files and
the shell only, so whatever it does, no other part of the surroundings is
touched (`Host.Steady`).

One lemma per function on the way down, from lifting bans and from
starting and stopping actions to running one command; each is read off
the sequence of work that the function is.
-/
import Gatewatch.Jail.Basic
import Gatewatch.Proofs.Work

namespace Gatewatch

open Work

variable {σ γ : Type} {part : Host σ → γ} (hpart : Host.Steady part)

include hpart

namespace Action

-- ============================================================ reports

theorem keeps_report (command : String) (finish : Finish) :
    (report command finish : Work σ _).Keeps part := by
  unfold report
  split
  case h_1 => exact Keeps.note hpart _ _
  case h_2 code _ stderr _ =>
    cases code
    all_goals
      refine Keeps.bind (Keeps.note hpart _ _) fun _ => ?_
      refine Keeps.perhaps (Keeps.note hpart _ _) ?_
      split
      case h_1 => exact Keeps.note hpart _ _
      case h_2 => exact Keeps.pure ()

theorem keeps_render (a : Action) (template : String)
    (event : Option Ban.Event) :
    (a.render template event : Work σ _).Keeps part := by
  unfold render
  split
  case h_1 => exact Keeps.pure _
  case h_2 =>
    exact Keeps.bind (Keeps.note hpart _ _) fun _ => Keeps.pure _

-- =========================================================== commands

variable [Shell σ]

theorem keeps_runNoted (command : String) :
    (runNoted command : Work σ _).Keeps part := by
  refine Keeps.bind (Keeps.run hpart command) fun finish => ?_
  refine Keeps.bind ?_ fun _ => Keeps.pure finish
  split
  case h_1 => exact Keeps.note hpart _ _
  case h_2 => exact Keeps.pure ()

theorem keeps_execute (command : String) :
    (execute command : Work σ _).Keeps part := by
  refine Keeps.bind (Keeps.note hpart _ _) fun _ => ?_
  split
  case isTrue =>
    exact Keeps.bind (Keeps.note hpart _ _) fun _ => Keeps.pure _
  case isFalse =>
    refine Keeps.perhaps (Keeps.note hpart _ _) ?_
    refine Keeps.bind (keeps_runNoted hpart command) fun finish => ?_
    split
    case isTrue =>
      exact Keeps.bind (Keeps.note hpart _ _) fun _ => Keeps.pure _
    case isFalse =>
      exact Keeps.bind (keeps_report hpart command finish)
        fun _ => Keeps.pure _

-- ============================================================ actions

theorem keeps_perform (a : Action) (template : String)
    (event : Option Ban.Event) :
    (a.perform template event : Work σ _).Keeps part := by
  refine Keeps.bind (a.keeps_render hpart template event) fun command => ?_
  cases command with
  | none => exact Keeps.pure false
  | some command => exact keeps_execute hpart command

theorem keeps_ensure (a : Action) :
    (a.ensure : Work σ _).Keeps part := by
  have hperform := fun template : String =>
    a.keeps_perform hpart template none
  unfold ensure
  refine Keeps.bind (hperform _) fun sane => ?_
  split
  case isTrue => exact Keeps.pure true
  case isFalse =>
    refine Keeps.bind (Keeps.note hpart _ _) fun _ => ?_
    refine Keeps.bind (hperform _) fun _ => ?_
    refine Keeps.bind (hperform _) fun _ => ?_
    refine Keeps.bind (hperform _) fun again => ?_
    split
    case isTrue => exact Keeps.pure true
    case isFalse =>
      exact Keeps.bind (Keeps.note hpart _ _) fun _ => Keeps.pure false

theorem keeps_carryOut (a : Action) (template : String)
    (event : Ban.Event) :
    (a.carryOut template event : Work σ _).Keeps part := by
  unfold carryOut
  split
  case isTrue =>
    exact Keeps.bind (Keeps.note hpart _ _) fun _ => Keeps.pure true
  case isFalse =>
    refine Keeps.bind (a.keeps_ensure hpart) fun sane => ?_
    split
    case isTrue => exact a.keeps_perform hpart template (some event)
    case isFalse => exact Keeps.pure false

-- =============================================================== bans

namespace Roster

theorem keeps_unbanAll (r : Roster) (b : Ban) (actions : List Action) :
    (r.unbanAll b actions : Work σ _).Keeps part := by
  induction actions with
  | nil => exact Keeps.pure ()
  | cons a rest ih =>
      unfold unbanAll
      exact Keeps.bind (a.keeps_carryOut hpart _ _) fun done =>
        Keeps.perhaps (Keeps.note hpart _ _) ih

theorem keeps_lift (r : Roster) (b : Ban) :
    (r.lift b : Work σ _).Keeps part :=
  Keeps.bind (Keeps.note hpart _ _) fun _ =>
    r.keeps_unbanAll hpart b r.actions

theorem keeps_unban (r : Roster) (source : Net.Address) :
    (r.unban source : Work σ _).Keeps part := by
  unfold unban
  split
  case h_1 => exact Keeps.pure _
  case h_2 b roll _ =>
    exact Keeps.bind (r.keeps_lift hpart b) fun _ => Keeps.pure _

theorem keeps_liftAll (r : Roster) (bans : List Ban) :
    (r.liftAll bans : Work σ _).Keeps part := by
  induction bans with
  | nil => exact Keeps.pure ()
  | cons b rest ih => exact Keeps.bind (r.keeps_lift hpart b) fun _ => ih

theorem keeps_flush (r : Roster) :
    (r.flush : Work σ _).Keeps part :=
  Keeps.bind (Keeps.note hpart _ _) fun _ =>
    Keeps.bind (r.keeps_liftAll hpart _) fun _ => Keeps.pure _

-- ===================================================== start and stop

omit [Shell σ] in
theorem keeps_runEach (r : Roster) (verb : String)
    {run : Action → Work σ Bool} (hrun : ∀ a, (run a).Keeps part)
    (actions : List Action) :
    (r.runEach verb run actions).Keeps part := by
  induction actions with
  | nil => exact Keeps.pure ()
  | cons a rest ih =>
      unfold runEach
      refine Keeps.bind (hrun a) fun first => ?_
      split
      case isTrue =>
        refine Keeps.bind (hrun a) fun second => ?_
        exact Keeps.perhaps (Keeps.note hpart _ _) ih
      case isFalse => exact ih

theorem keeps_start (r : Roster) : (r.start : Work σ _).Keeps part :=
  r.keeps_runEach hpart _ (fun a => a.keeps_perform hpart _ none) _

theorem keeps_stop (r : Roster) : (r.stop : Work σ _).Keeps part :=
  r.keeps_runEach hpart _ (fun a => a.keeps_perform hpart _ none) _

end Roster

end Action

-- =============================================================== jails

namespace Jail

variable [Shell σ]

theorem keeps_begin (j : Jail) : (j.begin : Work σ _).Keeps part := by
  unfold begin
  split
  case isTrue => exact Keeps.pure j
  case isFalse =>
    refine Keeps.bind (Keeps.note hpart _ _) fun _ => ?_
    refine Keeps.bind (Keeps.note hpart _ _) fun _ => ?_
    exact Keeps.bind (j.roster.keeps_start hpart) fun _ => Keeps.pure _

theorem keeps_stop (j : Jail) : (j.stop : Work σ _).Keeps part := by
  unfold stop
  split
  case isTrue =>
    exact Keeps.bind (Keeps.note hpart _ _) fun _ => Keeps.pure j
  case isFalse =>
    refine Keeps.bind (j.keeps_begin hpart) fun j => ?_
    refine Keeps.bind (Keeps.note hpart _ _) fun _ => ?_
    refine Keeps.bind (j.roster.keeps_flush hpart) fun flushed => ?_
    refine Keeps.bind (flushed.2.keeps_stop hpart) fun _ => ?_
    refine Keeps.bind (Keeps.note hpart _ _) fun _ => ?_
    exact Keeps.bind (Keeps.note hpart _ _) fun _ => Keeps.pure _

end Jail

end Gatewatch
