/-
The command batches of a roster.

A roster tells only what its bans came to; which commands it ran is lost
in the shell. This file keeps the account: a `Batch` is one run of the
ban commands, or of the unban commands, of all actions for one event,
with the success of each action in order. Every operation of a roster
has a watched twin that does the same work and also yields its batches
in order, and forgetting the batches gives the operation back
(`Call.run_eq_watch`), so what is proved of the account is proved of the
roster.

`Moves` then says once and for all what a call can do to the roll and
which batches go with it: nothing, a ban carried out, a ban that every
action failed, or some bans taken away and lifted in order. It knows
neither shell nor surroundings; `Call.watch_moves` is the only place
where the work of a call is taken apart.
-/
import Gatewatch.Action.Roster
import Gatewatch.Proofs.Ban.Roll
import Gatewatch.Proofs.Work

namespace Gatewatch.Action

open Net (Address)

-- ============================================================ batches

/-- Which commands a batch runs. -/
inductive Batch.Kind where
  | ban
  | unban
deriving DecidableEq, Repr

/-- One run of the ban commands, or of the unban commands, of all actions
for an event; `results` tells of each action in turn whether it
succeeded. -/
structure Batch where
  kind : Batch.Kind
  source : Address
  event : Ban.Event
  results : List Bool
deriving DecidableEq

namespace Batch

/-- Whether there were actions, and every one of them failed. -/
def failed (x : Batch) : Bool := !x.results.isEmpty && x.results.all (!·)

/-- What a batch was run for. -/
def purpose (x : Batch) : Kind × Address × Ban.Event :=
  (x.kind, x.source, x.event)

end Batch

namespace Roster

variable {σ : Type}

-- ================================================== watched operations

/-- Runs a command of each action in order, and tells of each whether it
succeeded; a failure is noted. -/
def tryEach (r : Roster) (b : Ban) (level : Level) (failure : String)
    (run : Action → Work σ Bool) : List Action → Work σ (List Bool)
  | [] => return []
  | a :: rest => do
    let done ← run a
    if !done then
      Work.note level (r.about ("Action " ++ a.name ++ failure ++ b.source.text))
    let others ← tryEach r b level failure run rest
    return done :: others

/-- Each action has its result. -/
theorem length_tryEach (r : Roster) (b : Ban) (level : Level)
    (failure : String) (run : Action → Work σ Bool)
    (actions : List Action) (h : Host σ) :
    ((r.tryEach b level failure run actions).result h).length
      = actions.length := by
  induction actions generalizing h with
  | nil => rfl
  | cons a rest ih =>
      simp only [tryEach, Work.result_bind]
      split
      all_goals simp [ih]

variable [Shell σ]

/-- Runs the ban commands, like `banAll`. -/
def banEach (r : Roster) (b : Ban) : List Action → Work σ (List Bool) :=
  r.tryEach b .warn " failed to ban " (·.runBan b.event)

/-- Runs the unban commands, like `unbanAll`. -/
def unbanEach (r : Roster) (b : Ban) : List Action → Work σ (List Bool) :=
  r.tryEach b .error " failed to unban " (·.runUnban b.event)

/-- The batch that carries a ban out. -/
def banBatch (r : Roster) (b : Ban) : Work σ Batch := do
  let results ← r.banEach b r.actions
  return { kind := .ban, source := b.source, event := b.event, results }

/-- The batch that lifts a ban. -/
def liftBatch (r : Roster) (b : Ban) : Work σ Batch := do
  Work.note .info (r.about ("Unban " ++ b.source.text))
  let results ← r.unbanEach b r.actions
  return { kind := .unban, source := b.source, event := b.event, results }

/-- The batches that lift some bans, one after the other. -/
def liftBatches (r : Roster) : List Ban → Work σ (List Batch)
  | [] => return []
  | b :: rest => do
    let x ← r.liftBatch b
    let others ← liftBatches r rest
    return x :: others

/-- Some action succeeded exactly when not all results are failures. -/
theorem banAll_eq (r : Roster) (b : Ban) (actions : List Action) :
    (r.banAll b actions : Work σ Bool)
      = (·.any id) <$> r.banEach b actions := by
  induction actions with
  | nil => simp [banAll, banEach, tryEach]
  | cons a rest ih =>
      simp only [banAll, banEach, tryEach, map_bind, ih]
      refine congrArg _ (funext fun done => ?_)
      cases done <;> simp

/-- A ban is carried out unless its batch failed. -/
theorem carryOut_eq (r : Roster) (b : Ban) :
    (r.carryOut b : Work σ Bool) = (!·.failed) <$> r.banBatch b := by
  unfold carryOut banBatch
  cases r.actions with
  | nil => simp [banEach, tryEach, Batch.failed]
  | cons a rest =>
      simp only [List.isEmpty_cons, Bool.false_eq_true, if_false,
        banAll_eq, banEach, tryEach, map_bind, bind_assoc]
      refine congrArg _ (funext fun done => ?_)
      cases done <;> simp [Batch.failed, List.any_eq_not_all_not]

/-- Lifting runs the unban commands, whatever comes of them. -/
theorem unbanAll_eq (r : Roster) (b : Ban) (actions : List Action) :
    (r.unbanAll b actions : Work σ Unit)
      = (fun _ => ()) <$> r.unbanEach b actions := by
  induction actions with
  | nil => simp [unbanAll, unbanEach, tryEach]
  | cons a rest ih =>
      simp only [unbanAll, unbanEach, tryEach, map_bind, ih]
      refine congrArg _ (funext fun done => ?_)
      cases done <;> simp

/-- A lifted ban is one batch. -/
theorem lift_eq (r : Roster) (b : Ban) :
    (r.lift b : Work σ Unit) = (fun _ => ()) <$> r.liftBatch b := by
  simp [lift, liftBatch, unbanAll_eq]

/-- Lifted bans are one batch each. -/
theorem liftAll_eq (r : Roster) (bans : List Ban) :
    (r.liftAll bans : Work σ Unit)
      = (fun _ => ()) <$> r.liftBatches bans := by
  induction bans with
  | nil => simp [liftAll, liftBatches]
  | cons b rest ih => simp [liftAll, liftBatches, lift_eq, ih]

/-- Each lifted ban has its batch, in order, rendered with the event of
the ban. -/
theorem purpose_liftBatches (r : Roster) (bans : List Ban) (h : Host σ) :
    ((r.liftBatches bans).result h).map Batch.purpose
      = bans.map fun b => (Batch.Kind.unban, b.source, b.event) := by
  induction bans generalizing h with
  | nil => rfl
  | cons b rest ih =>
      simp only [liftBatches, Work.result_bind, Work.result_pure,
        List.map_cons, ih]
      rfl

/-- Every lifted ban has a result of each action. -/
theorem results_liftBatches (r : Roster) (bans : List Ban) (h : Host σ) :
    ∀ x ∈ (r.liftBatches bans).result h,
      x.results.length = r.actions.length := by
  induction bans generalizing h with
  | nil =>
      intro x hx
      cases hx
  | cons b rest ih =>
      intro x hx
      rcases List.mem_cons.mp hx with rfl | hx'
      · exact r.length_tryEach ..
      · exact ih _ x hx'

end Roster

-- ============================================================== calls

/-- A roster with the table that takes failed bans back, if there is
one. -/
structure Ward where
  roster : Roster
  table : Option Offence.Table

/-- A call that bans sources or lifts bans. -/
inductive Call where
  | ban (o : Offence)
  | expire (now : Int)
  | unban (source : Address)
  | flush

namespace Call

variable {σ : Type} [Shell σ]

/-- Carries a call out. -/
def run (w : Ward) : Call → Work σ Ward
  | ban o => do
    let (_, roster, table) ← w.roster.ban w.table o
    return { roster, table }
  | expire now => do
    let (_, roster) ← w.roster.unbanExpired now
    return { w with roster }
  | unban source => do
    match ← w.roster.unban source with
    | .ok roster => return { w with roster }
    | .error _ => return w
  | flush => do
    let (_, roster) ← w.roster.flush
    return { w with roster }

/-- Carries a call out, and tells which batches it ran. -/
def watch (w : Ward) : Call → Work σ (Ward × List Batch)
  | ban o => do
    let r := w.roster
    let (b, effect, roster) := r.enter o
    match effect with
    | .banned =>
      Work.note .info (r.about ("Ban " ++ b.source.text))
      let x ← r.banBatch b
      if !x.failed then return ({ w with roster }, [x])
      Work.note .warn (r.about ("Every ban command failed for " ++ b.source.text
        ++ "; it will be retried"))
      return ({ roster := roster.withdraw b.source
                table := w.table.map (Roster.restore · o) }, [x])
    | .prolonged =>
      Work.note .info (r.about (b.source.text ++ " already banned, ban prolonged"))
      return ({ w with roster }, [])
    | .alreadyBanned =>
      Work.note .warn (r.about (b.source.text ++ " already banned"))
      return ({ w with roster }, [])
  | expire now => do
    let (gone, roll) := w.roster.roll.expire now
    let batches ← w.roster.liftBatches gone
    return ({ w with roster := { w.roster with roll } }, batches)
  | unban source => do
    match w.roster.roll.remove source with
    | none => return (w, [])
    | some (b, roll) =>
      let x ← w.roster.liftBatch b
      return ({ w with roster := { w.roster with roll } }, [x])
  | flush => do
    Work.note .debug (w.roster.about "Flush ban list")
    let (gone, roll) := w.roster.roll.flush
    let batches ← w.roster.liftBatches gone
    return ({ w with roster := { w.roster with roll } }, batches)

/-- Watching changes nothing: forgetting the batches gives the call. -/
theorem run_eq_watch (w : Ward) (c : Call) :
    (c.run w : Work σ Ward) = Prod.fst <$> c.watch w := by
  cases c with
  | ban o =>
      simp only [run, watch, Roster.ban]
      cases (w.roster.enter o).2.1 with
      | banned =>
          simp only [Roster.carryOut_eq, map_bind, bind_assoc, bind_map_left]
          refine congrArg _ (funext fun _ => ?_)
          refine congrArg _ (funext fun x => ?_)
          cases x.failed <;> simp
      | prolonged => simp
      | alreadyBanned => simp
  | expire now => simp [run, watch, Roster.unbanExpired, Roster.liftAll_eq]
  | unban source =>
      simp only [run, watch, Roster.unban]
      cases w.roster.roll.remove source with
      | none => simp
      | some found => simp [Roster.lift_eq]
  | flush => simp [run, watch, Roster.flush, Roster.liftAll_eq]

/-- Carries calls out in order. -/
def runAll (w : Ward) : List Call → Work σ Ward
  | [] => return w
  | c :: rest => do runAll (← c.run w) rest

/-- Carries calls out in order, and tells which batches they ran. -/
def watchAll (w : Ward) : List Call → Work σ (Ward × List Batch)
  | [] => return (w, [])
  | c :: rest => do
    let (w, batches) ← c.watch w
    let (w, more) ← watchAll w rest
    return (w, batches ++ more)

/-- Forgetting the batches of a run gives the run. -/
theorem runAll_eq_watchAll (w : Ward) (calls : List Call) :
    (runAll w calls : Work σ Ward) = Prod.fst <$> watchAll w calls := by
  induction calls generalizing w with
  | nil => simp [runAll, watchAll]
  | cons c rest ih =>
      simp only [runAll, watchAll, run_eq_watch, ih, map_bind,
        bind_map_left, map_pure]
      refine congrArg _ (funext fun out => ?_)
      rw [map_eq_pure_bind]

end Call

-- ==================================================== what a call does

/-- What a call can do to the roll, with the batches that it runs. -/
inductive Moves (roll : Ban.Roll) : List Batch → Ban.Roll → Prop where
  /-- No event comes or goes, and nothing runs. -/
  | still {roll' : Ban.Roll} (events : roll'.events = roll.events) :
      Moves roll [] roll'
  /-- A source without a ban gets one, which is carried out. -/
  | banned {b : Ban} {x : Batch} (absent : roll.get? b.source = none)
      (purpose : x.purpose = (.ban, b.source, b.event))
      (carried : x.failed = false) :
      Moves roll [x] (roll.add b).2
  /-- A source without a ban would get one, but every action failed. -/
  | failed {x : Batch} {roll' : Ban.Roll}
      (absent : roll.get? x.source = none) (kind : x.kind = .ban)
      (failed : x.failed = true) (events : roll'.events = roll.events) :
      Moves roll [x] roll'
  /-- Some bans are taken away, and each is lifted, in order. -/
  | lifted {p : Ban → Bool} {batches : List Batch}
      (purposes : batches.map Batch.purpose
        = (roll.bans.filter p).map fun b => (.unban, b.source, b.event)) :
      Moves roll batches (roll.keep fun b => !p b)

/-- Taking a ban back leaves the actions alone. -/
theorem Roster.actions_withdraw (r : Roster) (source : Address) :
    (r.withdraw source).actions = r.actions := by
  unfold withdraw
  split <;> rfl

/-- A ban that is taken back leaves the roster as it was, up to the count
of bans. -/
theorem Roster.withdraw_add {r : Roster} {b : Ban}
    (habsent : r.roll.get? b.source = none) :
    ({ r with roll := (r.roll.add b).2 } : Roster).withdraw b.source
      = { r with roll := { r.roll with total := r.roll.total + 1 } } := by
  unfold withdraw
  rw [Ban.Roll.remove_add_of_absent habsent]

/-- Every call is one of the moves. -/
theorem Call.watch_moves {σ : Type} [Shell σ] {w : Ward}
    (hw : w.roster.roll.Unique) (c : Call) (h : Host σ) :
    Moves w.roster.roll ((c.watch w).result h).2
      ((c.watch w).result h).1.roster.roll := by
  cases c with
  | ban o =>
      obtain ⟨b, hb⟩ : ∃ b, w.roster.roll.banOf o o.time = b := ⟨_, rfl⟩
      simp only [watch, Roster.enter, hb]
      cases hget : w.roster.roll.get? b.source with
      | none =>
          rw [(Ban.Roll.add_effect_iff _ _).mpr hget]
          simp only [Work.result_bind]
          generalize hx : (w.roster.banBatch b : Work σ Batch).result _ = x
          have hpurpose : x.purpose = (.ban, b.source, b.event) := by
            rw [← hx]
            rfl
          cases hfailed : x.failed with
          | false => exact .banned hget hpurpose hfailed
          | true =>
              have hsource : x.source = b.source :=
                congrArg (fun p => p.2.1) hpurpose
              refine .failed (hsource ▸ hget)
                (congrArg (fun p => p.1) hpurpose) hfailed ?_
              show (Roster.withdraw _ b.source).roll.events = _
              rw [Roster.withdraw_add hget]
              rfl
      | some old =>
          obtain ⟨heffect, hevents⟩ := Ban.Roll.add_of_present hget
          cases he : (w.roster.roll.add b).1 with
          | banned => exact absurd he heffect
          | prolonged => exact .still hevents
          | alreadyBanned => exact .still hevents
  | expire now =>
      exact .lifted (w.roster.purpose_liftBatches _ h)
  | unban source =>
      simp only [watch, Ban.Roll.remove_eq hw]
      cases hget : w.roster.roll.get? source with
      | none => exact .still rfl
      | some b =>
          refine .lifted (p := (·.source == source)) ?_
          rw [Ban.Roll.bans_of_source hw, hget]
          rfl
  | flush =>
      simp only [watch, Ban.Roll.flush_eq]
      exact .lifted (w.roster.purpose_liftBatches _ _)

/-- A call leaves the actions alone, and each of its batches has a result
of every one of them. -/
theorem Call.watch_actions {σ : Type} [Shell σ] (w : Ward) (c : Call)
    (h : Host σ) :
    ((c.watch w).result h).1.roster.actions = w.roster.actions
      ∧ ∀ x ∈ ((c.watch w).result h).2,
          x.results.length = w.roster.actions.length := by
  cases c with
  | ban o =>
      simp only [watch, Roster.enter]
      split
      · simp only [Work.result_bind]
        generalize hx : (w.roster.banBatch _ : Work σ Batch).result _ = x
        have hresults : x.results.length = w.roster.actions.length := by
          rw [← hx]
          exact w.roster.length_tryEach ..
        cases x.failed with
        | false => exact ⟨rfl, by simp [hresults]⟩
        | true => exact ⟨Roster.actions_withdraw .., by simp [hresults]⟩
      · exact ⟨rfl, by simp⟩
      · exact ⟨rfl, by simp⟩
  | expire now => exact ⟨rfl, w.roster.results_liftBatches _ h⟩
  | unban source =>
      simp only [watch]
      cases w.roster.roll.remove source with
      | none => exact ⟨rfl, by simp⟩
      | some found =>
          refine ⟨rfl, fun x hx => ?_⟩
          obtain rfl := List.mem_singleton.mp hx
          exact w.roster.length_tryEach ..
  | flush => exact ⟨rfl, w.roster.results_liftBatches _ _⟩

end Gatewatch.Action
