/-
A ban that every action failed to carry out.

The ban is entered into the roll before anything is run, and taken back
when nothing took effect; then the table takes the offence back. What a
ban comes to hangs on its batch alone (`Roster.ban_of_absent`), so it is
known once every action is known to fail (`Roster.ban_of_fails`).

Both are done with the operations that set any other ban and count any
other offence. The list of bans comes out as it was, but the totals tell
how often something was set or counted, and nothing ever lowers them: a
ban that failed stays counted as one, and the attempts that the table was
given back are counted a second time (`failed_ban_leaves_list`).
-/
import Gatewatch.Proofs.Ban.Batch
import Gatewatch.Shell.Script

namespace Gatewatch.Action

open Net (Address)

variable {σ : Type} [Shell σ] {w : Ward} {o : Offence} {h : Host σ}

-- ================================================== a ban that fails

/-- There are actions, and every one of them fails to carry out the ban
of an offence. -/
def Ward.Fails (w : Ward) (o : Offence) (h : Host σ) : Prop :=
  w.roster.actions ≠ []
    ∧ ∀ x ∈ (((Call.ban o).watch w).result h).2,
        ∀ done ∈ x.results, done = false

instance : Decidable (w.Fails o h) :=
  inferInstanceAs (Decidable (_ ∧ _))

/-- The ban of a source that is not banned runs one batch. Unless that
fails, the ban is set; else it is taken back, which leaves it counted,
and the table takes the offence back. -/
theorem Roster.ban_of_absent (habsent : w.roster.roll.get? o.source = none)
    (h : Host σ) :
    ∃ x, (((Call.ban o).watch w).result h).2 = [x]
      ∧ x.results.length = w.roster.actions.length
      ∧ (w.roster.ban w.table o).result h
        = if x.failed then
            (.banned,
              { w.roster with roll :=
                  { w.roster.roll with total := w.roster.roll.total + 1 } },
              w.table.map (restore · o))
          else (.banned, (w.roster.enter o).2.2, w.table) := by
  obtain ⟨b, hb⟩ : ∃ b, w.roster.roll.banOf o o.time = b := ⟨_, rfl⟩
  have hsource : o.source = b.source := by
    rw [← hb]
    rfl
  rw [hsource] at habsent
  have heffect : (w.roster.roll.add b).1 = .banned :=
    (Ban.Roll.add_effect_iff _ _).2 habsent
  simp only [Call.watch, ban, enter, hb, heffect, carryOut_eq,
    bind_map_left]
  simp only [Work.result_bind, Work.after_note]
  generalize h.record _ = h'
  generalize hx : (w.roster.banBatch b : Work σ Batch).result h' = x
  refine ⟨x, ?_, hx ▸ w.roster.length_tryEach .., ?_⟩
  · split <;> rfl
  · cases x.failed with
    | false => rfl
    | true =>
        rw [if_pos rfl, ← withdraw_add habsent]
        rfl

/-- A ban that every action fails to carry out is set and taken back. -/
theorem Roster.ban_of_fails (habsent : w.roster.roll.get? o.source = none)
    (hfails : w.Fails o h) :
    (w.roster.ban w.table o).result h
      = (.banned,
        { w.roster with
          roll := { w.roster.roll with total := w.roster.roll.total + 1 } },
        w.table.map (restore · o)) := by
  obtain ⟨hactions, hall⟩ := hfails
  obtain ⟨x, hx, hlength, hban⟩ := ban_of_absent habsent h
  have hresults : x.results ≠ [] := fun hnil => by
    rw [hnil] at hlength
    exact hactions (List.length_eq_zero_iff.1 hlength.symm)
  have hfailed : x.failed = true := by
    unfold Batch.failed
    rw [List.isEmpty_eq_false_iff.2 hresults, Bool.not_false, Bool.true_and,
      List.all_eq_true]
    intro done hdone
    rw [hall x (hx ▸ List.mem_singleton_self x) done hdone]
    rfl
  rw [hban, if_pos hfailed]

-- ==================================================== what stays counted

/-- An offence is taken back with one attempt less than a ban needs at
most, if that leaves any of it. -/
theorem Roster.restore_eq (t : Offence.Table) (o : Offence) :
    restore t o
      = if 0 < min o.attempts (t.maxRetry - 1) then
          t.add { o with attempts := min o.attempts (t.maxRetry - 1) }
        else t := rfl

/-- What the table takes back is counted again. -/
theorem Roster.total_restore (t : Offence.Table) (o : Offence) :
    (restore t o).total = t.total + min o.attempts (t.maxRetry - 1) := by
  rw [restore_eq]
  split
  case isTrue hkeep =>
    show t.total + max 1 (min o.attempts (t.maxRetry - 1)) = _
    rw [Nat.max_eq_right hkeep]
  case isFalse hkeep =>
    rw [Nat.eq_zero_of_not_pos hkeep, Nat.add_zero]

/-- A ban that every action fails to carry out leaves the list of bans as
it was before. The total of the bans counts it nevertheless, and the total
of the offences counts the attempts that the table takes back once
more. -/
theorem failed_ban_leaves_list {t : Offence.Table}
    (htable : w.table = some t)
    (habsent : w.roster.roll.get? o.source = none)
    (hfails : w.Fails o h) :
    ∃ roll t', (w.roster.ban w.table o).result h
          = (.banned, { w.roster with roll }, some t')
      ∧ roll.bans = w.roster.roll.bans
      ∧ roll.banTime = w.roster.roll.banTime
      ∧ roll.total = w.roster.roll.total + 1
      ∧ t'.total = t.total + min o.attempts (t.maxRetry - 1) := by
  refine ⟨{ w.roster.roll with total := w.roster.roll.total + 1 },
    Roster.restore t o, ?_, rfl, rfl, rfl, Roster.total_restore t o⟩
  rw [Roster.ban_of_fails habsent hfails, htable]
  rfl

/-- A worker with one action and one ban in force. Its table has counted
three attempts and handed them out. -/
def guarded : Ward where
  roster :=
    { jail := "ssh"
      actions := [{ name := "firewall", templates := { ban := "block <ip>" } }]
      roll :=
        { bans := [{ source := Address.parse "1.1.1.1", start := 900
                     duration := 600 }]
          total := 1 } }
  table := some { total := 3 }

/-- The attempts that were handed out. -/
def handedOut : Offence :=
  { source := Address.parse "1.2.3.4", time := 1000, attempts := 3 }

/-- A shell in which no ban can be carried out. -/
def broken : Host Script :=
  { now := 1000, files := .initial
    shell := { rules := [⟨"block", .ended (some 1) "" "" none, none⟩] } }

/-- The other ban is left as it was. -/
theorem failed_ban_leaves_other :
    guarded.Fails handedOut broken
      ∧ ((guarded.roster.ban guarded.table handedOut).result
          broken).2.1.roll.bans = guarded.roster.roll.bans := by
  have hfails : guarded.Fails handedOut broken := by decide +kernel
  obtain ⟨roll, t', hban, hbans, -⟩ :=
    failed_ban_leaves_list (w := guarded) rfl (by decide +kernel) hfails
  refine ⟨hfails, ?_⟩
  rw [hban]
  exact hbans

/-- Neither total is what it was before the call: the ban that never took
effect is counted, and two of the three attempts are counted again. -/
theorem failed_ban_stays_counted :
    guarded.roster.roll.get? handedOut.source = none
      ∧ guarded.Fails handedOut broken
      ∧ guarded.roster.roll.total = 1
      ∧ ((guarded.roster.ban guarded.table handedOut).result
          broken).2.1.roll.total = 2
      ∧ guarded.table.map (·.total) = some 3
      ∧ ((guarded.roster.ban guarded.table handedOut).result
          broken).2.2.map (·.total) = some 5 := by
  decide +kernel

end Gatewatch.Action
