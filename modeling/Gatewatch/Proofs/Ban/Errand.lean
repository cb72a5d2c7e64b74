/-
Errands come to what the calls do that they are cut from.

A ban is carried out by an errand, and so is lifting one. From each stage
of an action a known part of its turn is left (`resume`), and enough
steps take the action through that part to the next one
(`steps_turn`). Left to itself, an errand thus does what the actions do
one after the other (`steps_eq_tryEach`), and a call is its opening, its
errand and its end (`Roster.ban_eq_errand`, `Roster.unban_eq_errand`):
nothing of a call is lost when it is taken apart.
-/
import Gatewatch.Action.Errand
import Gatewatch.Proofs.Ban.Batch

namespace Gatewatch.Action

open Net (Address)

variable {σ : Type}

namespace Errand

-- ============================================================ one step

/-- How serious it is that an action failed. -/
def level : Role → Level
  | .ban => .warn
  | _ => .error

/-- What is said of an action that failed. -/
def failure : Role → String
  | .ban => " failed to ban "
  | _ => " failed to unban "

theorem blame_eq (r : Roster) (e : Errand) (a : Action) :
    (e.blame r a : Work σ Unit) = Work.note (level e.role)
      (r.about
        ("Action " ++ a.name ++ failure e.role ++ e.ban.source.text)) := by
  unfold blame level failure
  cases e.role <;> rfl

/-- The end of the turn of an action: a failure is noted, and the turn of
the next one comes. -/
def settle (r : Roster) (e : Errand) (a : Action) (rest : List Action)
    (done : Bool) : Work σ Errand := do
  if !done then e.blame r a
  return { e with left := rest, stage := .check, done := e.done || done }

theorem settle_bind {β : Type} (r : Roster) (e : Errand) (a : Action)
    (rest : List Action) (done : Bool) (f : Errand → Work σ β) :
    e.settle r a rest done >>= f = (do
      if !done then e.blame r a
      f ⟨e.role, e.ban, rest, .check, e.done || done⟩) := by
  cases done <;> simp [settle]

variable [Shell σ]

/-- A step is one stage of the action whose turn it is. -/
theorem step_cons (r : Roster) {e : Errand} {a : Action}
    {rest : List Action} (hleft : e.left = a :: rest) :
    (e.step r : Work σ Errand)
      = a.advance (a.command e.role) e.ban.event e.stage >>= fun
        | .inl stage => pure { e with stage }
        | .inr done => e.settle r a rest done := by
  unfold step
  rw [hleft]
  rfl

/-- An errand without actions stays as it is. -/
theorem steps_of_nil (r : Roster) (n : Nat) {e : Errand}
    (hleft : e.left = []) : (e.steps r n : Work σ Errand) = pure e := by
  induction n with
  | zero => rfl
  | succ n ih =>
      have hstep : (e.step r : Work σ Errand) = pure e := by
        unfold step
        rw [hleft]
      rw [steps, hstep, pure_bind, ih]

-- ============================================================ one turn

/-- Checks the environment once more, and runs the command of a template
if it is sane now. -/
def retry (a : Action) (template : String) (event : Ban.Event) :
    Work σ Bool := do
  if ← a.runCheck then a.perform template (some event)
  else
    Work.note .error (a.name ++ ": unable to restore environment")
    return false

/-- What is left of the turn of an action from a stage on. -/
def resume (a : Action) (template : String) (event : Ban.Event) :
    Stage → Work σ Bool
  | .check => a.carryOut template event
  | .stop => do
    let _ ← a.runStop
    let _ ← a.runStart
    retry a template event
  | .start => do
    let _ ← a.runStart
    retry a template event
  | .recheck => retry a template event
  | .act => a.perform template (some event)

/-- After its first check an action goes on with its command, or with
restoring its environment. -/
theorem resume_check (a : Action) (template : String)
    (event : Ban.Event) :
    (resume a template event .check : Work σ Bool)
      = if template.isEmpty then (do
          Work.note .debug "Nothing to do"
          return true)
        else (do
          if ← a.runCheck then resume a template event .act
          else
            Work.note .error (a.name
              ++ ": invariant check failed. Trying to restore a sane environment")
            resume a template event .stop) := by
  unfold resume carryOut ensure
  dsimp only
  split
  case isTrue => rfl
  case isFalse =>
    rw [bind_assoc]
    refine bind_congr fun sane => ?_
    cases sane with
    | true => simp
    | false =>
        simp only [Bool.false_eq_true, if_false, retry, bind_assoc]
        refine bind_congr fun _ => bind_congr fun _ => bind_congr fun _ => ?_
        refine bind_congr fun sane => ?_
        cases sane <;> simp

/-- Enough steps take an action from its stage to the end of its turn. -/
theorem steps_turn (r : Roster) (role : Role) (b : Ban) (a : Action)
    (rest : List Action) (was : Bool) (k : Nat)
    (finish : Bool → Work σ Errand)
    (hfinish : ∀ n, k ≤ n → ∀ stage done,
      settle r ⟨role, b, a :: rest, stage, was⟩ a rest done >>= steps r n
        = finish done) :
    ∀ stage n, k + stage.ahead ≤ n →
      (steps r n ⟨role, b, a :: rest, stage, was⟩ : Work σ Errand)
        = resume a (a.command role) b.event stage >>= finish
  | .act, n + 1, hn => by
      have hk : k ≤ n := by
        simp only [Stage.ahead] at hn
        omega
      rw [steps, step_cons r rfl]
      simp only [advance, resume, bind_assoc, pure_bind, hfinish n hk]
  | .recheck, n + 1, hn => by
      have hk : k + 1 ≤ n := by
        simp only [Stage.ahead] at hn
        omega
      have hact := steps_turn r role b a rest was k finish hfinish .act n hk
      rw [steps, step_cons r rfl]
      simp only [advance, resume, retry, bind_assoc]
      refine bind_congr fun sane => ?_
      cases sane with
      | true => simp [hact, resume]
      | false => simp [hfinish n (by omega)]
  | .start, n + 1, hn => by
      have hrecheck := steps_turn r role b a rest was k finish hfinish
        .recheck n (by simp only [Stage.ahead] at hn ⊢; omega)
      rw [steps, step_cons r rfl]
      simp only [advance, resume, bind_assoc, pure_bind, hrecheck]
  | .stop, n + 1, hn => by
      have hstart := steps_turn r role b a rest was k finish hfinish .start n
        (by simp only [Stage.ahead] at hn ⊢; omega)
      rw [steps, step_cons r rfl]
      simp only [advance, resume, bind_assoc, pure_bind, hstart]
  | .check, n + 1, hn => by
      have hk : k + 4 ≤ n := by
        simp only [Stage.ahead] at hn
        omega
      have hstop := steps_turn r role b a rest was k finish hfinish .stop n hk
      have hact := steps_turn r role b a rest was k finish hfinish .act n
        (by simp only [Stage.ahead]; omega)
      rw [steps, step_cons r rfl, resume_check]
      simp only [advance]
      split
      case isTrue => simp [hfinish n (by omega)]
      case isFalse =>
        simp only [bind_assoc]
        refine bind_congr fun sane => ?_
        cases sane with
        | true => simp [hact]
        | false => simp [hstop]

-- =========================================================== all turns

/-- Enough steps take an errand to its end: the actions run one after the
other, and it is done when any of them has succeeded. -/
theorem steps_eq_tryEach (r : Roster) (role : Role) (b : Ban)
    (left : List Action) (was : Bool) {n : Nat}
    (hn : 5 * left.length ≤ n) :
    (steps r n ⟨role, b, left, .check, was⟩ : Work σ Errand)
      = (fun results => ⟨role, b, [], .check, was || results.any id⟩)
        <$> r.tryEach b (level role) (failure role)
          (fun a => a.carryOut (a.command role) b.event) left := by
  induction left generalizing was n with
  | nil =>
      rw [steps_of_nil r n rfl]
      simp [Roster.tryEach]
  | cons a rest ih =>
      rw [List.length_cons] at hn
      rw [steps_turn r role b a rest was (5 * rest.length)
        (fun done => do
          if !done then
            Work.note (level role) (r.about
              ("Action " ++ a.name ++ failure role ++ b.source.text))
          (fun results =>
              ⟨role, b, [], .check, (was || done) || results.any id⟩)
            <$> r.tryEach b (level role) (failure role)
              (fun a => a.carryOut (a.command role) b.event) rest)
        ?_ .check n (by simp only [Stage.ahead]; omega)]
      · simp only [resume, Roster.tryEach, map_bind]
        refine bind_congr fun done => ?_
        cases done <;> simp
      · intro n hk stage done
        rw [settle_bind, blame_eq, ih _ hk]

/-- An errand that is left to itself runs all its actions. -/
theorem steps_setOut (r : Roster) (role : Role) (b : Ban)
    (actions : List Action) :
    ((setOut role b actions).steps r (setOut role b actions).ahead :
        Work σ Errand)
      = (fun results =>
          ⟨role, b, [], .check, actions.isEmpty || results.any id⟩)
        <$> r.tryEach b (level role) (failure role)
          (fun a => a.carryOut (a.command role) b.event) actions := by
  refine steps_eq_tryEach r role b actions _ ?_
  unfold setOut ahead
  cases actions with
  | nil => exact Nat.le_refl 0
  | cons a rest =>
      simp only [List.length_cons, Stage.ahead]
      omega

end Errand

namespace Roster

-- ============================================================== calls

/-- What the actions do does not depend on the roll. -/
theorem tryEach_roll (r : Roster) (roll : Ban.Roll) (b : Ban)
    (level : Level) (failure : String) (run : Action → Work σ Bool)
    (actions : List Action) :
    ({ r with roll } : Roster).tryEach b level failure run actions
      = r.tryEach b level failure run actions := by
  induction actions with
  | nil => rfl
  | cons a rest ih =>
      simp only [tryEach, ih]
      rfl

variable [Shell σ]

/-- A ban is carried out when any action has succeeded, or when there is
none. -/
theorem carryOut_eq_tryEach (r : Roster) (b : Ban) :
    (r.carryOut b : Work σ Bool)
      = (fun results => r.actions.isEmpty || results.any id)
        <$> r.tryEach b .warn " failed to ban "
          (fun a => a.carryOut (a.command .ban) b.event) r.actions := by
  unfold carryOut
  rw [banAll_eq]
  cases r.actions with
  | nil => simp [tryEach]
  | cons a rest =>
      simp only [List.isEmpty_cons, Bool.false_eq_true, if_false,
        Bool.false_or]
      rfl

/-- A ban is its opening, its errand and its end. -/
theorem ban_eq_errand (r : Roster) (table : Option Offence.Table)
    (o : Offence) :
    (r.ban table o : Work σ (Ban.Effect × Roster × Option Offence.Table))
      = (do
        let (effect, r', e?) ← r.openBan o
        match e? with
        | none => return (effect, r', table)
        | some e =>
          let e ← e.steps r' e.ahead
          let (r'', table) ← r'.closeBan table o e
          return (effect, r'', table)) := by
  unfold ban openBan
  simp only [enter]
  cases (r.roll.add (r.roll.banOf o o.time)).1 with
  | banned =>
      simp only [bind_assoc, pure_bind]
      refine bind_congr fun _ => ?_
      rw [Errand.steps_setOut, tryEach_roll, carryOut_eq_tryEach]
      simp only [bind_map_left]
      refine bind_congr fun results => ?_
      cases r.actions.isEmpty || results.any id with
      | true => simp [closeBan]
      | false =>
          simp [closeBan]
          rfl
  | prolonged => simp
  | alreadyBanned => simp

/-- Lifting a ban is its opening and its errand. -/
theorem unban_eq_errand (r : Roster) (source : Address) :
    (r.unban source : Work σ (Outcome Roster)) = (do
      match ← r.openUnban source with
      | .error e => return .error e
      | .ok (r', e) =>
        let _ ← e.steps r' e.ahead
        return .ok r') := by
  unfold unban openUnban
  cases r.roll.remove source with
  | none => simp
  | some found =>
      simp only [lift_eq, liftBatch, map_bind, bind_assoc, pure_bind,
        bind_map_left]
      refine bind_congr fun _ => ?_
      rw [Errand.steps_setOut, tryEach_roll]
      simp only [bind_pure_comp, Functor.map_map]
      rfl

end Roster

end Gatewatch.Action
