/-
The worker of a roster, as a loop.

# The loop

A worker starts the actions and then looks around again and again. What
it finds is a `Look`: whether it was cancelled, whether its jail is idle,
the offence at the head of the queue, the time, and whether it is
cancelled while it waits for the next look. It bans the source of the
offence and lifts the bans that have ended, or does nothing when its jail
is idle. The loop is left in three places, and all of them lead to the
same end: the bans are lifted, and the actions are stopped
(`Worker.finish`).

# What it comes to

Where the loop is left is told by the looks alone, and up to there it is
a sequence of calls (`Worker.loop_eq_runAll`). So a worker ends when a
look ends it, whatever its commands do (`Worker.isSome_run`).

# Jails

A jail that wakes carries out turns of this loop, one for each offence in
its queue and one more (`Jail.wakeRoster_is_loop`), and a jail that is
stopped ends it (`Jail.stop_eq_finish`).
-/
import Gatewatch.Jail.Basic
import Gatewatch.Proofs.Ban.Batch

namespace Gatewatch

namespace Action

-- ============================================================== looks

/-- What a worker finds when it looks around. -/
structure Look where
  /-- It was cancelled before it looked. -/
  cancelled : Bool := false
  idle : Bool := false
  /-- The offence at the head of the queue. -/
  offence : Option Offence := none
  now : Int
  /-- It is cancelled while it waits. -/
  interrupted : Bool := false

namespace Look

/-- Whether the worker leaves its loop. With an offence in the queue it
does not wait. -/
def ends (l : Look) : Bool :=
  l.cancelled || ((l.idle || l.offence.isNone) && l.interrupted)

/-- The calls that the worker makes. -/
def calls (l : Look) : List Call :=
  if l.cancelled || l.idle then []
  else (l.offence.map Call.ban).toList ++ [.expire l.now]

end Look

-- ============================================================= worker

namespace Worker

/-- The calls of the looks up to the one that ends the loop. -/
def calls : List Look → List Call
  | [] => []
  | l :: rest => l.calls ++ if l.ends then [] else calls rest

variable {σ : Type} [Shell σ]

/-- One turn of the loop; the flag tells whether there is another one. -/
def turn (w : Ward) (l : Look) : Work σ (Ward × Bool) := do
  if l.cancelled then return (w, false)
  if l.idle then return (w, !l.interrupted)
  let w ← match l.offence with
    | some o => (Call.ban o).run w
    | none => pure w
  let w ← (Call.expire l.now).run w
  if l.offence.isSome then return (w, true)
  return (w, !l.interrupted)

/-- The loop; the flag tells whether it has not been left yet. -/
def loop (w : Ward) : List Look → Work σ (Ward × Bool)
  | [] => return (w, true)
  | l :: rest => do
    let (w, more) ← turn w l
    if more then loop w rest else return (w, false)

/-- The end: all bans are lifted, and the stop commands run. -/
def finish (w : Ward) : Work σ Ward := do
  let w ← Call.flush.run w
  w.roster.stop
  return w

/-- The work from the start to the end, if it has come to an end. -/
def run (w : Ward) (looks : List Look) : Work σ (Option Ward) := do
  w.roster.start
  let (w, more) ← loop w looks
  if more then return none
  return some (← finish w)

-- ========================================================== one by one

/-- A turn is its calls. -/
theorem turn_eq_runAll (w : Ward) (l : Look) :
    (turn w l : Work σ _) = (·, !l.ends) <$> Call.runAll w l.calls := by
  unfold turn Look.ends Look.calls
  cases l.cancelled with
  | true => rfl
  | false =>
      cases l.idle with
      | true => rfl
      | false =>
          cases l.offence with
          | some o => simp [Call.runAll]
          | none => simp [Call.runAll]

/-- Calls may be carried out in two parts. -/
theorem runAll_append (w : Ward) (first more : List Call) :
    (Call.runAll w (first ++ more) : Work σ _)
      = Call.runAll w first >>= (Call.runAll · more) := by
  induction first generalizing w with
  | nil => rfl
  | cons c rest ih => simp only [List.cons_append, Call.runAll, ih, bind_assoc]

/-- The loop goes on with more looks unless it has been left. -/
theorem loop_append (w : Ward) (first more : List Look) :
    (loop w (first ++ more) : Work σ _) = (do
      let (w, on) ← loop w first
      if on then loop w more else return (w, false)) := by
  induction first generalizing w with
  | nil => rfl
  | cons l rest ih =>
      simp only [List.cons_append, loop, ih, bind_assoc]
      refine bind_congr fun out => ?_
      cases out.2 <;> rfl

/-- The loop is the calls of its looks, up to the one that ends it. -/
theorem loop_eq_runAll (w : Ward) (looks : List Look) :
    (loop w looks : Work σ _)
      = (·, !looks.any Look.ends) <$> Call.runAll w (calls looks) := by
  induction looks generalizing w with
  | nil => rfl
  | cons l rest ih =>
      unfold loop calls
      rw [turn_eq_runAll, runAll_append, List.any_cons]
      cases hends : l.ends with
      | true => simp [Call.runAll]
      | false => simp [ih]

/-- The work, as calls between the start and the stop of the actions. -/
theorem run_eq_runAll (w : Ward) (looks : List Look) :
    (run w looks : Work σ _) = (do
      w.roster.start
      let w ← Call.runAll w (calls looks)
      if looks.any Look.ends then return some (← finish w)
      else return none) := by
  unfold run
  rw [loop_eq_runAll]
  cases looks.any Look.ends <;> simp

/-- A worker comes to an end when one of its looks ends it. -/
theorem isSome_run (w : Ward) (looks : List Look) (h : Host σ) :
    ((run w looks).result h).isSome = looks.any Look.ends := by
  rw [run_eq_runAll]
  cases looks.any Look.ends <;> rfl

end Worker

end Action

-- ============================================================== jails

namespace Jail

open Gatewatch.Action (Ward Look Call)
open Gatewatch.Action.Worker (turn loop loop_append finish)

variable {σ : Type} [Shell σ]

/-- The roster of a jail, with the table of its filter. -/
def ward (j : Jail) : Ward := ⟨j.roster, some j.filter.table⟩

/-- A ban goes on with a table if it was given one. -/
theorem exists_table_ban (r : Action.Roster) (t : Offence.Table)
    (o : Offence) (h : Host σ) :
    ∃ t', ((r.ban (some t) o).result h).2.2 = some t' := by
  unfold Action.Roster.ban
  rcases r.enter o with ⟨b, effect, r'⟩
  cases effect with
  | banned =>
      simp only [Work.result_bind]
      split <;> exact ⟨_, rfl⟩
  | prolonged => exact ⟨t, rfl⟩
  | alreadyBanned => exact ⟨t, rfl⟩

/-- A jail that empties its queue takes a turn for each offence. -/
theorem banAll_is_loop (offences : List Offence) (j : Jail) (h : Host σ) :
    ∃ looks : List Look, looks.map Look.offence = offences.map some
      ∧ (loop j.ward looks).result h
        = (((banAll offences j).result h).ward, true)
      ∧ (loop j.ward looks).after h = (banAll offences j).after h := by
  induction offences generalizing j h with
  | nil => exact ⟨[], rfl, rfl, rfl⟩
  | cons o rest ih =>
      -- the jail after the ban, and the surroundings then
      let x := (j.roster.ban (some j.filter.table) o).result h
      let k : Jail := { j with
        roster := x.2.1
        filter := { j.filter with table := x.2.2.getD j.filter.table } }
      let h' := (j.roster.ban (some j.filter.table) o).after h
      obtain ⟨looks, hqueue, hresult, hafter⟩ :=
        ih (k.expire.result h') (k.expire.after h')
      have hward : (⟨x.2.1, x.2.2⟩ : Ward) = k.ward := by
        obtain ⟨t', ht'⟩ :=
          exists_table_ban j.roster j.filter.table o h
        show (⟨x.2.1, x.2.2⟩ : Ward)
          = ⟨x.2.1, some (x.2.2.getD j.filter.table)⟩
        rw [show x.2.2 = some t' from ht']
        rfl
      let l : Look := { offence := some o, now := h'.now }
      have hdone : (turn j.ward l).result h
          = ((k.expire.result h').ward, true) := by
        show (((Call.expire h'.now).run ⟨x.2.1, x.2.2⟩).result h', true) = _
        rw [hward]
        rfl
      have hleft : (turn j.ward l).after h = k.expire.after h' := by
        show ((Call.expire h'.now).run ⟨x.2.1, x.2.2⟩).after h' = _
        rw [hward]
        rfl
      refine ⟨l :: looks, congrArg (some o :: ·) hqueue, ?_, ?_⟩
      · rw [loop, Work.result_bind, hdone, hleft]
        exact hresult
      · rw [loop, Work.after_bind, hdone, hleft]
        exact hafter

/-- A jail that wakes takes a turn for each offence in its queue, and one
more when the queue is empty. -/
theorem wakeRoster_is_loop (j : Jail) (hidle : j.idle = false)
    (h : Host σ) :
    ∃ looks : List Look,
      looks.map Look.offence = j.queue.map some ++ [none]
      ∧ (loop j.ward looks).result h
        = ((j.wakeRoster.result h).ward, true)
      ∧ (loop j.ward looks).after h = j.wakeRoster.after h := by
  obtain ⟨looks, hqueue, hresult, hafter⟩ :=
    banAll_is_loop j.queue { j with queue := [] } h
  have hwake : j.wakeRoster (σ := σ)
      = banAll j.queue { j with queue := [] } >>= expire := by
    unfold wakeRoster
    rw [hidle]
    rfl
  rw [hwake]
  let k := (banAll j.queue { j with queue := [] }).result h
  let h' := (banAll j.queue { j with queue := [] }).after h
  let l : Look := { now := h'.now }
  have hlast : (loop k.ward [l]).result h'
        = ((k.expire.result h').ward, true)
      ∧ (loop k.ward [l]).after h' = k.expire.after h' := ⟨rfl, rfl⟩
  refine ⟨looks ++ [l], ?_, ?_, ?_⟩
  · rw [List.map_append, hqueue]
    rfl
  · rw [loop_append, Work.result_bind,
      show (loop j.ward looks).result h = (k.ward, true) from hresult,
      show (loop j.ward looks).after h = h' from hafter]
    exact hlast.1
  · rw [loop_append, Work.after_bind,
      show (loop j.ward looks).result h = (k.ward, true) from hresult,
      show (loop j.ward looks).after h = h' from hafter]
    exact hlast.2

/-- To stop a running jail is to end its worker, and to note it. -/
theorem stop_eq_finish (j : Jail) (hrunning : j.running = true)
    (hbegun : j.begun = true) :
    (j.stop : Work σ Jail) = (do
      Work.note .debug (j.about "Filter worker stopped")
      let w ← finish j.ward
      Work.note .debug (j.about "Action worker stopped")
      Work.note .info ("Jail '" ++ j.name ++ "' stopped")
      return { j with roster := w.roster, running := false, begun := false }) := by
  unfold stop begin finish Call.run
  simp [hrunning, hbegun, ward]

end Jail

end Gatewatch
