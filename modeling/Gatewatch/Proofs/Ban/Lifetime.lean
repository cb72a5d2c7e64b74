/-
A worker from its start to its end, and that it leaves no ban behind.

# The account

The work has a watched twin that does the same and keeps an account
(`Worker.watch`): the tries to start each action, the batches of the
calls, those of the last call, which lifts all bans, and the tries to
stop each action. Each entry of the account tells how many commands were
run for it, and together these are all that the worker has run
(`Worker.runs_watch`). So what is not in the account was not run, and
nothing was run behind its last entry.

# The end

When the worker has ended, no ban is in the roll. By the books of the
roll (`Books`) the last batch of each source is none that carried a ban
out, and in between batches alternate. So behind every ban batch that did
not fail there comes an unban batch, and behind that a ban batch or
nothing (`Alternates.unban_follows_ban`).
-/
import Gatewatch.Proofs.Action.Commands
import Gatewatch.Proofs.Ban.Pairing
import Gatewatch.Proofs.Ban.Worker
import Gatewatch.Shell.Script
import Mathlib.Algebra.Ring.Nat

namespace Gatewatch.Action

open Net (Address)

-- ============================================================ accounts

/-- What a worker does, as it is seen from outside. -/
inductive Deed where
  /-- It tried to start an action. -/
  | start (action : Action) (done : Bool)
  /-- It made calls that ran some batches. -/
  | calls (batches : List Batch)
  /-- It tried to stop an action. -/
  | stop (action : Action) (done : Bool)
deriving DecidableEq

namespace Deed

/-- The batches of a deed. -/
def batches : Deed → List Batch
  | calls batches => batches
  | _ => []

/-- Whether an action was to be stopped. -/
def isStop : Deed → Bool
  | stop .. => true
  | _ => false

end Deed

/-- Deeds in order, each with the number of commands that were run for
it. -/
abbrev Deeds := List (Deed × Nat)

namespace Deeds

/-- The batches of an account, in order. -/
def batches (deeds : Deeds) : List Batch := deeds.flatMap (·.1.batches)

/-- The number of commands that were run. -/
def runs (deeds : Deeds) : Nat := (deeds.map Prod.snd).sum

@[simp] theorem runs_append (first more : Deeds) :
    (first ++ more : Deeds).runs = first.runs + more.runs := by
  simp [runs]

/-- Each action was tried once or, if that failed, twice. Every try took
as many commands as one try of that action takes. -/
inductive Tries (deed : Action → Bool → Deed) (cost : Action → Nat) :
    List Action → Deeds → Prop
  | nil : Tries deed cost [] []
  | once {a : Action} {rest : List Action} {deeds : Deeds}
      (more : Tries deed cost rest deeds) :
      Tries deed cost (a :: rest) ((deed a true, cost a) :: deeds)
  | twice {a : Action} {rest : List Action} {deeds : Deeds}
      (done : Bool) (more : Tries deed cost rest deeds) :
      Tries deed cost (a :: rest)
        ((deed a false, cost a) :: (deed a done, cost a) :: deeds)

end Deeds

namespace Roster

variable {σ : Type}

/-- Runs a command of an action, twice if it fails, and keeps the
account. -/
def tryOne (r : Roster) (verb : String) (run : Action → Work σ Bool)
    (deed : Action → Bool → Deed) (a : Action) : Work σ Deeds := do
  let (first, n) ← Work.counted (run a)
  if first then return [(deed a true, n)]
  let (second, m) ← Work.counted (run a)
  if !second then
    Work.note .error
      (r.about ("Failed to " ++ verb ++ " action " ++ a.name ++ " after one retry"))
  return [(deed a false, n), (deed a second, m)]

/-- Runs a command of each action, twice if it fails, like `runEach`, and
keeps the account. -/
def tryEachTwice (r : Roster) (verb : String) (run : Action → Work σ Bool)
    (deed : Action → Bool → Deed) : List Action → Work σ Deeds
  | [] => return []
  | a :: rest => do
    let deeds ← r.tryOne verb run deed a
    let others ← tryEachTwice r verb run deed rest
    return deeds ++ others

/-- To keep the account changes nothing. -/
theorem runEach_eq (r : Roster) (verb : String) (run : Action → Work σ Bool)
    (deed : Action → Bool → Deed) (actions : List Action) :
    (r.runEach verb run actions : Work σ Unit)
      = (fun _ => ()) <$> r.tryEachTwice verb run deed actions := by
  induction actions with
  | nil => rfl
  | cons a rest ih =>
      simp only [runEach, tryEachTwice, tryOne, map_bind, bind_assoc, ih]
      conv =>
        lhs
        rw [← Work.fst_counted (run a), bind_map_left]
      refine bind_congr fun first => ?_
      cases first.1 with
      | true => simp
      | false =>
          have hagain := Work.fst_counted (run a)
          simp only [Bool.not_false, if_true, Bool.false_eq_true, if_false,
            bind_assoc]
          rw [← hagain, bind_map_left, hagain]
          refine bind_congr fun second => ?_
          cases second.1 <;> simp

variable {run : Action → Work σ Bool} {deed : Action → Bool → Deed}

/-- An action is tried once, or it fails and is tried again. -/
theorem tryOne_cases (r : Roster) (verb : String) {n : Nat} {a : Action}
    (hrun : (run a).Runs n) (h : Host σ) :
    (r.tryOne verb run deed a).result h = [(deed a true, n)]
      ∨ ∃ done, (r.tryOne verb run deed a).result h
        = [(deed a false, n), (deed a done, n)] := by
  have hcount : ∀ h : Host σ, ((run a).after h).runs - h.runs = n :=
    fun h => by rw [hrun h, Nat.add_sub_cancel_left]
  unfold tryOne
  simp only [Work.result_bind, Work.result_counted, hcount]
  cases (run a).result h with
  | true => exact .inl rfl
  | false =>
      right
      refine ⟨(run a).result ((run a).after h), ?_⟩
      simp only [Bool.false_eq_true, if_false, Work.result_bind,
        Work.result_counted, hcount]
      split <;> rfl

/-- The account of the tries of an action tells of all commands. -/
theorem tallies_tryOne (r : Roster) (verb : String) {a : Action}
    (hrun : (run a).Grows) :
    (r.tryOne verb run deed a).Tallies 0 Deeds.runs := by
  refine .bind (.counted hrun) fun ⟨first, n⟩ => ?_
  cases first with
  | true => exact .pure (by simp [Deeds.runs])
  | false =>
      refine .bind (.counted hrun) fun ⟨second, m⟩ => ?_
      have hboth : Deeds.runs [(deed a false, n), (deed a second, m)]
          = 0 + n + m := by simp [Deeds.runs]
      cases second with
      | true => exact .pure hboth
      | false => exact .note (.pure hboth)

/-- Each action is tried as the account tells. -/
theorem tries_tryEachTwice (r : Roster) (verb : String)
    {cost : Action → Nat} (hrun : ∀ a, (run a).Runs (cost a))
    (actions : List Action) (h : Host σ) :
    Deeds.Tries deed cost actions
      ((r.tryEachTwice verb run deed actions).result h) := by
  induction actions generalizing h with
  | nil => exact .nil
  | cons a rest ih =>
      have hrest := ih ((r.tryOne verb run deed a).after h)
      rw [tryEachTwice, Work.result_bind, Work.result_bind]
      have hcases : (r.tryOne verb run deed a).result h = _ ∨ _ :=
        r.tryOne_cases verb (hrun a) h
      rcases hcases with hone | ⟨done, htwo⟩
      · rw [hone]
        exact .once hrest
      · rw [htwo]
        exact .twice done hrest

/-- The account of all tries tells of all commands. -/
theorem tallies_tryEachTwice (r : Roster) (verb : String)
    (hrun : ∀ a, (run a).Grows) (actions : List Action) :
    (r.tryEachTwice verb run deed actions).Tallies 0 Deeds.runs := by
  induction actions with
  | nil => exact .pure rfl
  | cons a rest ih =>
      refine .bind (r.tallies_tryOne verb (hrun a)) fun deeds => ?_
      refine .bind ih fun others => .pure ?_
      rw [Deeds.runs_append, Nat.zero_add]

end Roster

-- =================================================== commands of calls

section Calls

variable {σ : Type}

/-- To try each action takes some commands, or none. -/
theorem Roster.grows_tryEach (r : Roster) (b : Ban) (level : Level)
    (failure : String) {run : Action → Work σ Bool}
    (hrun : ∀ a, (run a).Grows) (actions : List Action) :
    (r.tryEach b level failure run actions).Grows := by
  induction actions with
  | nil => exact .pure _
  | cons a rest ih =>
      refine .bind (hrun a) fun done => .perhaps (.note _ _) ?_
      exact .bind ih fun _ => .pure _

variable [Shell σ]

theorem Roster.grows_banBatch (r : Roster) (b : Ban) :
    (r.banBatch b : Work σ _).Grows :=
  .bind (r.grows_tryEach b _ _ (fun a => a.grows_carryOut _ _) _)
    fun _ => .pure _

theorem Roster.grows_liftBatch (r : Roster) (b : Ban) :
    (r.liftBatch b : Work σ _).Grows :=
  .bind (.note _ _) fun _ =>
    .bind (r.grows_tryEach b _ _ (fun a => a.grows_carryOut _ _) _)
      fun _ => .pure _

theorem Roster.grows_liftBatches (r : Roster) (bans : List Ban) :
    (r.liftBatches bans : Work σ _).Grows := by
  induction bans with
  | nil => exact .pure _
  | cons b rest ih =>
      exact .bind (r.grows_liftBatch b) fun _ => .bind ih fun _ => .pure _

/-- A call takes some commands, or none. -/
theorem Call.grows_watch (w : Ward) (c : Call) :
    (c.watch w : Work σ _).Grows := by
  cases c with
  | ban o =>
      simp only [watch]
      split
      case h_1 =>
        refine .bind (.note _ _) fun _ =>
          .bind (w.roster.grows_banBatch _) fun x => ?_
        split
        case isTrue => exact .pure _
        case isFalse => exact .bind (.note _ _) fun _ => .pure _
      case h_2 => exact .bind (.note _ _) fun _ => .pure _
      case h_3 => exact .bind (.note _ _) fun _ => .pure _
  | expire now =>
      exact .bind (w.roster.grows_liftBatches _) fun _ => .pure _
  | unban source =>
      simp only [watch]
      split
      case h_1 => exact .pure _
      case h_2 => exact .bind (w.roster.grows_liftBatch _) fun _ => .pure _
  | flush =>
      exact .bind (.note _ _) fun _ =>
        .bind (w.roster.grows_liftBatches _) fun _ => .pure _

/-- Calls take some commands, or none. -/
theorem Call.grows_watchAll (w : Ward) (calls : List Call) :
    (watchAll w calls : Work σ _).Grows := by
  induction calls generalizing w with
  | nil => exact .pure _
  | cons c rest ih =>
      exact .bind (c.grows_watch w) fun out =>
        .bind (ih out.1) fun _ => .pure _

end Calls

-- ============================================================= the twin

namespace Worker

variable {σ : Type} [Shell σ]

/-- The work from the start to the end, if it has come to an end, and the
account of it. -/
def watch (w : Ward) (looks : List Look) : Work σ (Option Ward × Deeds) := do
  let starts ← w.roster.tryEachTwice "start" Action.runStart .start w.roster.actions
  let ((w, batches), n) ← Work.counted (Call.watchAll w (calls looks))
  if looks.any Look.ends then
    let ((w, lifted), m) ← Work.counted (Call.flush.watch w)
    let stops ← w.roster.tryEachTwice "stop" Action.runStop .stop w.roster.actions
    return (some w, starts ++ [(.calls batches, n), (.calls lifted, m)] ++ stops)
  else return (none, starts ++ [(.calls batches, n)])

/-- To keep the account changes nothing. -/
theorem run_eq_watch (w : Ward) (looks : List Look) :
    (run w looks : Work σ _) = Prod.fst <$> watch w looks := by
  rw [run_eq_runAll]
  simp only [watch, map_bind, Roster.start,
    Roster.runEach_eq _ _ _ Deed.start, bind_map_left]
  refine bind_congr fun starts => ?_
  rw [Call.runAll_eq_watchAll, Work.map_eq_map_counted, bind_map_left]
  refine bind_congr fun out => ?_
  cases looks.any Look.ends with
  | false => simp
  | true =>
      simp only [if_true, finish, Call.run_eq_watch, map_bind]
      rw [Work.map_eq_map_counted, bind_map_left, bind_assoc]
      refine bind_congr fun last => ?_
      simp [Roster.stop, Roster.runEach_eq _ _ _ Deed.stop]

/-- The account tells of all commands. -/
theorem tallies_watch (w : Ward) (looks : List Look) :
    (watch w looks : Work σ _).Tallies 0 (·.2.runs) := by
  have hplain : ∀ (a : Action) (template : String),
      (a.perform template none : Work σ _).Grows := fun a template =>
    .of_runs (a.runs_perform template none)
  refine .bind (w.roster.tallies_tryEachTwice _ (fun a => hplain a _) _)
    fun starts => ?_
  refine .bind (.counted (Call.grows_watchAll w _))
    fun ⟨⟨w, batches⟩, n⟩ => ?_
  dsimp only
  split
  case isFalse => exact .pure (by simp [Deeds.runs])
  case isTrue =>
    refine .bind (.counted (Call.grows_watch w .flush))
      fun ⟨⟨w, lifted⟩, m⟩ => ?_
    refine .bind (w.roster.tallies_tryEachTwice _ (fun a => hplain a _) _)
      fun stops => .pure ?_
    simp [Deeds.runs]
    omega

/-- The commands of one try to start an action, or to stop it. -/
def costOf (role : Role) (a : Action) : Nat := a.cost (a.command role) none

/-- The account of work that has come to its end: what the start of the
actions, the calls, the last call and the stop of the actions came to. -/
theorem watch_cases (w : Ward) {looks : List Look}
    (hends : looks.any Look.ends = true) (h : Host σ) :
    ∃ (starts stops : Deeds) (n m : Nat) (h₁ h₂ : Host σ),
      let worked := (Call.watchAll w (calls looks)).result h₁
      let ended := (Call.flush.watch worked.1).result h₂
      (watch w looks).result h = (some ended.1, starts
          ++ [(.calls worked.2, n), (.calls ended.2, m)] ++ stops)
        ∧ Deeds.Tries .start (costOf .start) w.roster.actions starts
        ∧ Deeds.Tries .stop (costOf .stop) ended.1.roster.actions
          stops := by
  let x : Work σ Deeds :=
    w.roster.tryEachTwice "start" Action.runStart .start w.roster.actions
  let h₁ := x.after h
  let y : Work σ _ := Call.watchAll w (calls looks)
  let h₂ := y.after h₁
  let z : Work σ _ := Call.flush.watch (y.result h₁).1
  let r := (z.result h₂).1.roster
  let t : Work σ Deeds :=
    r.tryEachTwice "stop" Action.runStop .stop r.actions
  refine ⟨x.result h, t.result (z.after h₂), h₂.runs - h₁.runs,
    (z.after h₂).runs - h₂.runs, h₁, h₂, ?_, ?_, ?_⟩
  · unfold watch
    rw [hends]
    rfl
  · exact w.roster.tries_tryEachTwice _ (fun a => a.runs_perform _ _) _ _
  · exact r.tries_tryEachTwice _ (fun a => a.runs_perform _ _) _ _

/-- Behind the last call no ban is in the roll, and the actions are those
that the worker began with. The books go on through all calls. -/
theorem books_at_end {w : Ward} (hbooks : Books w.roster.roll [])
    (looks : List Look) (h₁ h₂ : Host σ) :
    let worked := (Call.watchAll w (calls looks)).result h₁
    let ended := (Call.flush.watch worked.1).result h₂
    ended.1.roster.roll.bans = []
      ∧ ended.1.roster.actions = w.roster.actions
      ∧ Books ended.1.roster.roll (worked.2 ++ ended.2) := by
  intro worked ended
  have hworked : Books worked.1.roster.roll worked.2 := hbooks.run _ h₁
  refine ⟨rfl, ?_, ?_⟩
  · exact (Call.watch_actions worked.1 .flush h₂).1.trans
      (Call.watchAll_actions w _ h₁).1
  · exact hworked.step (Call.watch_moves hworked.unique .flush h₂)

end Worker

-- ============================================================== the end

/-- Where no ban stands in the end, a ban batch that did not fail is
followed by an unban batch for the same event, and that by a ban batch or
by nothing. -/
theorem Alternates.unban_follows_ban {bs p q : List Batch} {x : Batch}
    (hbs : Alternates bs) (hend : standing bs = none)
    (h : bs = p ++ x :: q) (hx : x.kind = .ban)
    (hcarried : x.failed = false) :
    ∃ y q', q = y :: q' ∧ y.kind = .unban ∧ y.event = x.event
      ∧ ∀ z q'', q' = z :: q'' → z.kind = .ban := by
  have hstands : standing (p ++ [x]) = some x.event := by
    rw [standing_snoc, if_pos ⟨hx, hcarried⟩]
  cases q with
  | nil =>
      rw [h, hstands] at hend
      cases hend
  | cons y q' =>
      have hy := hbs (p ++ [x]) y q' (by simp [h])
      cases hkind : y.kind with
      | ban =>
          rw [hkind, hstands] at hy
          cases hy
      | unban =>
          rw [hkind, hstands] at hy
          refine ⟨y, q', rfl, hkind, (Option.some.inj hy).symm, ?_⟩
          -- behind an unban batch nothing stands that could be lifted
          intro z q'' hq'
          have hz := hbs (p ++ [x] ++ [y]) z q'' (by simp [h, hq'])
          cases hz' : z.kind with
          | ban => rfl
          | unban =>
              rw [hz', standing_snoc, if_neg (by simp [hkind])] at hz
              cases hz

/-- Tries to start or to stop actions are nothing else. -/
theorem Deeds.Tries.eq_deed {deed : Action → Bool → Deed}
    {cost : Action → Nat} {actions : List Action} {deeds : Deeds}
    (h : Deeds.Tries deed cost actions deeds) :
    ∀ d ∈ deeds, ∃ a done, d.1 = deed a done := by
  induction h with
  | nil => nofun
  | @once a rest deeds _ ih =>
      intro d hd
      rcases List.mem_cons.1 hd with rfl | hd
      · exact ⟨a, true, rfl⟩
      · exact ih d hd
  | @twice a rest deeds done _ ih =>
      intro d hd
      rcases List.mem_cons.1 hd with rfl | hd
      · exact ⟨a, false, rfl⟩
      rcases List.mem_cons.1 hd with rfl | hd
      · exact ⟨a, done, rfl⟩
      · exact ih d hd

/-- Where actions are started no batch is run. -/
theorem Deeds.Tries.batches_start {cost : Action → Nat}
    {actions : List Action} {deeds : Deeds}
    (h : Deeds.Tries .start cost actions deeds) : deeds.batches = [] := by
  apply List.flatMap_eq_nil_iff.2
  intro d hd
  obtain ⟨a, done, hdeed⟩ := h.eq_deed d hd
  rw [hdeed]
  rfl

/-- Where actions are started none is stopped. -/
theorem Deeds.Tries.isStop_start {cost : Action → Nat}
    {actions : List Action} {deeds : Deeds}
    (h : Deeds.Tries .start cost actions deeds) :
    ∀ d ∈ deeds, d.1.isStop = false := by
  intro d hd
  obtain ⟨a, done, hdeed⟩ := h.eq_deed d hd
  rw [hdeed]
  rfl

/-- A worker that has ended leaves no ban behind. Whatever it found when
it looked around, wherever it was cancelled, and however its commands
fared, the account of it is the work, and it ends when a look ends it.
When it has ended,

- the roll lists no ban,
- of each source, a ban batch that did not fail is followed by an unban
  batch for the same event, and that by a ban batch or by nothing,
- behind all batches each action was stopped in order, by one try of its
  stop command or, if that failed, by two,
- no other command was run, and none behind those. -/
theorem stopped_worker_leaves_no_ban {σ : Type} [Shell σ] (jail : String)
    (actions : List Action) (total : Nat) (banTime : Int)
    (table : Option Offence.Table) (looks : List Look) (h : Host σ) :
    let start : Ward :=
      { roster := { jail, actions, roll := { total, banTime } }, table }
    (Worker.run start looks : Work σ _)
        = Prod.fst <$> Worker.watch start looks
      ∧ ((Worker.run start looks).result h).isSome = looks.any Look.ends
      ∧ ∀ w, (Worker.run start looks).result h = some w →
        w.roster.roll.bans = []
        ∧ ∃ before stops : Deeds,
          ((Worker.watch start looks).result h).2 = before ++ stops
          ∧ (∀ source p x q,
              batchesOf source before.batches = p ++ x :: q →
              x.kind = .ban → x.failed = false →
              ∃ y q', q = y :: q' ∧ y.kind = .unban ∧ y.event = x.event
                ∧ ∀ z q'', q' = z :: q'' → z.kind = .ban)
          ∧ (∀ d ∈ before, d.1.isStop = false)
          ∧ Deeds.Tries .stop (Worker.costOf .stop) actions stops
          ∧ ((Worker.run start looks).after h).runs
            = h.runs + (before ++ stops : Deeds).runs := by
  intro start
  have htwin := Worker.run_eq_watch (σ := σ) start looks
  refine ⟨htwin, Worker.isSome_run start looks h, fun w hw => ?_⟩
  have hends : looks.any Look.ends = true := by
    rw [← Worker.isSome_run start looks h, hw]
    rfl
  have hruns := Worker.tallies_watch start looks h
  have hafter : (Worker.run start looks).after h
      = (Worker.watch start looks).after h := by
    rw [htwin]
    rfl
  have hresult : (Worker.run start looks).result h
      = ((Worker.watch start looks).result h).1 := by
    rw [htwin]
    rfl
  obtain ⟨starts, stops, n, m, h₁, h₂, hwatch, hstarts, hstops⟩ :=
    Worker.watch_cases start hends h
  obtain ⟨hempty, hactions, hbooks⟩ :=
    Worker.books_at_end (w := start) (books_init total banTime) looks h₁ h₂
  generalize (Call.watchAll start (Worker.calls looks)).result h₁ = worked
    at *
  generalize (Call.flush.watch worked.1).result h₂ = ended at *
  have hbatches : Deeds.batches (starts
      ++ [(.calls worked.2, n), (.calls ended.2, m)])
      = worked.2 ++ ended.2 := by
    rw [Deeds.batches, List.flatMap_append]
    show starts.batches ++ _ = _
    rw [hstarts.batches_start]
    simp [Deed.batches]
  have hw' : w = ended.1 := by
    rw [hresult, hwatch] at hw
    exact (Option.some.inj hw).symm
  refine ⟨hw' ▸ hempty, _, stops, congrArg Prod.snd hwatch, ?_, ?_, ?_, ?_⟩
  · intro source p x q hsplit hx hcarried
    rw [hbatches] at hsplit
    have hstanding : standing (batchesOf source (worked.2 ++ ended.2))
        = none := by
      rw [hbooks.listed, Ban.Roll.get?, hempty]
      rfl
    exact (hbooks.alternates source).unban_follows_ban hstanding hsplit hx
      hcarried
  · intro d hd
    rcases List.mem_append.1 hd with hd | hd
    · exact hstarts.isStop_start d hd
    · rcases List.mem_cons.1 hd with rfl | hd
      · rfl
      · rw [List.mem_singleton.1 hd]
        rfl
  · rw [hactions] at hstops
    exact hstops
  · rw [hwatch] at hruns
    rw [hafter]
    exact hruns

/-- A worker with one action, before it is started. -/
def guarding : Ward where
  roster :=
    { jail := "ssh"
      actions := [{ name := "firewall", templates :=
        { start := "open", stop := "close", ban := "block <ip>",
          unban := "allow <ip>" } }] }
  table := none

/-- A shell in which the action can be stopped at the second try only. -/
def stiff : Host Script :=
  { now := 0, files := .initial
    shell := { rules := [⟨"close", .ended (some 1) "" "" none, some 1⟩] } }

/-- There is an offence in the queue, and then nothing; the worker is
cancelled while it waits. -/
def cancelledWhileWaiting : List Look :=
  [{ offence := some { source := Address.parse "1.1.1.1", time := 0 }
     now := 0 },
    { now := 1, interrupted := true }]

/-- The ban that was left is lifted before the action is stopped. -/
theorem cancelled_worker_lifts_ban :
    ∃ w, (Worker.run guarding cancelledWhileWaiting).result stiff = some w
      ∧ w.roster.roll.bans = []
      ∧ ((Worker.run guarding cancelledWhileWaiting).after stiff).runs = 5
      ∧ ((Worker.run guarding cancelledWhileWaiting).after
          stiff).shell.commands
        = ["open", "block 1.1.1.1", "allow 1.1.1.1", "close", "close"] := by
  obtain ⟨-, hsome, hended⟩ := stopped_worker_leaves_no_ban "ssh"
    guarding.roster.actions 0 guarding.roster.roll.banTime none
    cancelledWhileWaiting stiff
  have hends : cancelledWhileWaiting.any Look.ends = true := by decide
  rw [hends] at hsome
  obtain ⟨w, hw⟩ := Option.isSome_iff_exists.1 hsome
  exact ⟨w, hw, (hended w hw).1, by decide +kernel, by decide +kernel⟩

end Gatewatch.Action
