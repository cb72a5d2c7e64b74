/-
Jails whose commands take no time.

A jail that is carried on piece by piece stops where a command has taken
time. If none ever does (`Shell.Prompt`), there is nothing to stop for:
an errand goes on to its end (`Errand.stepsAtOnce_eq`), a ban is what the
roster makes of it in one go (`banAtOnce_eq`), and any number of wakes
leaves the jail that `Jail.wakes` leaves (`wakesAtOnce_eq_wakes`). So
what is proved of those wakes holds of a jail that is carried on piece by
piece.
-/
import Gatewatch.Jail.Pace
import Gatewatch.Proofs.Ban.Errand

namespace Gatewatch

/-- No command takes time. -/
def Shell.Prompt (σ : Type) [Shell σ] : Prop := ∀ s : σ, Shell.clock s = 0

variable {σ : Type} [Shell σ]

theorem Work.clock_of_prompt (hprompt : Shell.Prompt σ) :
    (Work.clock : Work σ Nat) = pure 0 := by
  unfold Work.clock
  simp only [hprompt _]
  exact Work.get_bind_const _

/-- An errand goes on to its end. -/
theorem Action.Errand.stepsAtOnce_eq (hprompt : Shell.Prompt σ)
    (r : Action.Roster) (n : Nat) (e : Action.Errand) :
    (e.stepsAtOnce r n : Work σ _) = (·, false) <$> e.steps r n := by
  induction n generalizing e with
  | zero => rfl
  | succ n ih =>
      simp only [stepsAtOnce, steps, Work.clock_of_prompt hprompt,
        pure_bind, Nat.lt_irrefl, if_false, ih, map_bind]

namespace Jail

/-- A ban goes on to its end. -/
theorem goOn_eq (hprompt : Shell.Prompt σ) (j : Jail) (u : Ongoing) :
    (j.goOn u : Work σ _) = (·, none) <$> j.carryThrough u := by
  simp only [goOn, carryThrough, Action.Errand.stepsAtOnce_eq hprompt,
    bind_map_left, Bool.false_eq_true, if_false, map_bind]
  simp only [map_eq_pure_bind]

/-- Bans are what the roster makes of them one after the other. -/
theorem banAtOnce_eq (hprompt : Shell.Prompt σ) (offences : List Offence)
    (j : Jail) :
    (banAtOnce offences j : Work σ _)
      = (·, none) <$> banAll offences j := by
  induction offences generalizing j with
  | nil => rfl
  | cons o rest ih =>
      simp only [banAtOnce, banAll, Action.Roster.ban_eq_errand, map_bind,
        bind_assoc]
      refine bind_congr fun opened => ?_
      obtain ⟨effect, roster, e?⟩ := opened
      cases e? with
      | none => simp [ih]
      | some e => simp [goOn_eq hprompt, carryThrough, close, ih]

/-- A roster that is carried on piece by piece wakes as in one go. -/
theorem wakeRosterAtOnce_eq (hprompt : Shell.Prompt σ) (j : Jail) :
    (j.wakeRosterAtOnce none : Work σ _)
      = (·, none) <$> j.wakeRoster := by
  simp only [wakeRosterAtOnce, wakeRoster, pure_bind]
  cases j.idle with
  | true => rfl
  | false => simp [banAtOnce_eq hprompt]

/-- A jail that is carried on piece by piece wakes as in one go. -/
theorem wakesAtOnce_eq_wakes (hprompt : Shell.Prompt σ) (n : Nat)
    (j : Jail) :
    (wakesAtOnce n j none : Work σ _) = (·, none) <$> wakes n j := by
  induction n generalizing j with
  | zero => simp [wakesAtOnce, wakes]
  | succ n ih =>
      unfold wakesAtOnce wakes wake
      cases j.running with
      | false => simp [ih]
      | true => simp [wakeRosterAtOnce_eq hprompt, ih]

end Jail

end Gatewatch
