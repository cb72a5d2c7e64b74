/-
A ban and an unban of one source, side by side.

The worker of a jail bans a source while a request lifts the ban of the
same source. Both calls are cut into moves: a change of the roll is one,
and so is each stage of an action, which runs one command at most. The
sides take their moves in any order (`Race.go`), and what is seen of them
is written down as marks. Watching changes nothing
(`Errand.step_eq_watch`).

`Turn` says once and for all what one move can do, as long as no action
fails; `Race.move_turn` is the only place where a move is taken apart.
An action that ends its turn without failing has run its command exactly
when its template gives one (`Errand.watch_cases`), so the marks of a
whole errand can be read off its actions (`Errand.marks_of_watchAll`).
-/
import Gatewatch.Proofs.Action.Commands
import Gatewatch.Proofs.Ban.Errand
import Mathlib.Logic.Function.Basic

namespace Gatewatch.Action

open Net (Address)

-- ============================================================== marks

/-- The commands that a batch of a kind runs. -/
def Batch.Kind.role : Batch.Kind → Role
  | .ban => .ban
  | .unban => .unban

/-- What is seen of a ban and an unban. -/
inductive Mark where
  /-- The ban came into the roll. -/
  | entered
  /-- A ban was taken off the roll, to be lifted. -/
  | removed
  /-- The ban was taken back since every action failed. -/
  | withdrawn
  /-- The ban command or the unban command of an action was run. -/
  | ran (kind : Batch.Kind) (action : Action)
  /-- An action failed. -/
  | failed (kind : Batch.Kind) (action : Action)
deriving DecidableEq

/-- The marks of a batch in which no action fails. -/
def Batch.marks (kind : Batch.Kind) (event : Ban.Event)
    (actions : List Action) : List Mark :=
  (actions.filter (·.hasCommand kind.role event)).map (.ran kind)

section Stages

variable {σ : Type} [Shell σ]

-- ========================================================== one stage

/-- A stage of an action either leads to another one, which runs neither
the ban command nor the unban command, or ends its turn. If the action
has succeeded then, this command was run if there is one. -/
theorem advance_cases (a : Action) (role : Role) (event : Ban.Event)
    (stage : Stage) (h : Host σ) :
    let x : Work σ (Stage ⊕ Bool) :=
      a.advance (a.command role) event stage
    (∃ next, x.result h = .inl next ∧ stage ≠ .act)
      ∨ (x.result h = .inr true
        ∧ ((stage = .act ∧ h.runs < (x.after h).runs)
          ↔ a.hasCommand role event = true))
      ∨ x.result h = .inr false := by
  intro x
  cases stage with
  | check =>
      by_cases hempty : (a.command role).isEmpty = true
      · have hx : x = (do
            Work.note .debug "Nothing to do"
            return .inr true) := if_pos hempty
        refine .inr (.inl ⟨by rw [hx]; rfl, ?_⟩)
        simp [hasCommand_of_isEmpty hempty]
      · have hx : x = _ := if_neg hempty
        refine .inl ?_
        rw [hx, Work.result_bind]
        split <;> exact ⟨_, rfl, by simp⟩
  | stop => exact .inl ⟨.start, rfl, by simp⟩
  | start => exact .inl ⟨.recheck, rfl, by simp⟩
  | recheck =>
      simp only [x, advance, Work.result_bind]
      split
      case isTrue => exact .inl ⟨.act, rfl, by simp⟩
      case isFalse => exact .inr (.inr rfl)
  | act =>
      have hresult : x.result h
          = .inr ((a.perform (a.command role) (some event)).result h) := rfl
      have hafter : x.after h
          = (a.perform (a.command role) (some event)).after h := rfl
      rw [hresult, hafter]
      cases hdone : (a.perform (a.command role) (some event)).result h with
      | false => exact .inr (.inr rfl)
      | true =>
          refine .inr (.inl ⟨rfl, ?_⟩)
          rw [← runs_perform_iff hdone]
          simp

namespace Errand

/-- One step, with its marks. -/
def watch (r : Roster) (kind : Batch.Kind) (e : Errand) :
    Work σ (Errand × List Mark) :=
  match e.left with
  | [] => return (e, [])
  | a :: rest => do
    let (out, n) ← Work.counted
      (a.advance (a.command e.role) e.ban.event e.stage)
    let ran := if e.stage = .act ∧ 0 < n then [Mark.ran kind a] else []
    match out with
    | .inl stage => return ({ e with stage }, ran)
    | .inr done =>
      if !done then e.blame r a
      return (⟨e.role, e.ban, rest, .check, e.done || done⟩,
        ran ++ if done then [] else [.failed kind a])

/-- Watching changes nothing: forgetting the marks gives the step. -/
theorem step_eq_watch (r : Roster) (kind : Batch.Kind) (e : Errand) :
    (e.step r : Work σ Errand) = Prod.fst <$> e.watch r kind := by
  unfold step watch
  cases e.left with
  | nil => rfl
  | cons a rest =>
      have hcounted := Work.fst_counted
        (a.advance (a.command e.role) e.ban.event e.stage : Work σ _)
      simp only [map_bind]
      conv =>
        lhs
        rw [← hcounted, bind_map_left]
      refine bind_congr fun out => ?_
      cases out.1 with
      | inl stage => rfl
      | inr done => cases done <;> simp

/-- A step goes on with the turn of an action or ends it, unless the
action fails. -/
theorem watch_cases (r : Roster) (kind : Batch.Kind) {e : Errand}
    {a : Action} {rest : List Action} (hleft : e.left = a :: rest)
    (h : Host σ) :
    (∃ stage, (e.watch r kind).result h = ({ e with stage }, []))
      ∨ (e.watch r kind).result h
        = (⟨e.role, e.ban, rest, .check, true⟩,
          if a.hasCommand e.role e.ban.event then [.ran kind a] else [])
      ∨ .failed kind a ∈ ((e.watch r kind).result h).2 := by
  unfold watch
  rw [hleft]
  simp only [Work.result_bind, Work.result_counted]
  obtain ⟨next, hout, hstage⟩ | ⟨hout, hran⟩ | hout :=
    advance_cases a e.role e.ban.event e.stage h
  · refine .inl ⟨next, ?_⟩
    rw [hout]
    simp [hstage]
  · refine .inr (.inl ?_)
    rw [hout]
    simp only [Bool.not_true, Bool.false_eq_true, if_false, Bool.or_true,
      if_true, Nat.sub_pos_iff_lt, hran, List.append_nil,
      Work.after_counted, Work.result_pure]
  · refine .inr (.inr ?_)
    rw [hout]
    simp

/-- Some steps, with their marks. -/
def watchAll (r : Roster) (kind : Batch.Kind) :
    Nat → Errand → Work σ (Errand × List Mark)
  | 0, e => return (e, [])
  | n + 1, e => do
    let (e, marks) ← e.watch r kind
    let (e, more) ← watchAll r kind n e
    return (e, marks ++ more)

/-- An errand in which no action fails leaves the marks of the actions
that had their turn, as a batch does. -/
theorem marks_of_watchAll (r : Roster) (kind : Batch.Kind) (n : Nat)
    (e : Errand) (hrole : e.role = kind.role) (h : Host σ)
    (hok : ∀ a, .failed kind a ∉ ((watchAll r kind n e).result h).2) :
    ∃ turned,
      e.left = turned ++ ((watchAll r kind n e).result h).1.left
        ∧ ((watchAll r kind n e).result h).2
          = Batch.marks kind e.ban.event turned := by
  induction n generalizing e h with
  | zero => exact ⟨[], rfl, rfl⟩
  | succ n ih =>
      simp only [watchAll, Work.result_bind, Work.result_pure] at hok ⊢
      cases hleft : e.left with
      | nil =>
          have hstay : (e.watch r kind : Work σ _) = pure (e, []) := by
            unfold watch
            rw [hleft]
          rw [hstay] at hok ⊢
          obtain ⟨turned, hturned, hmarks⟩ := ih e hrole _ hok
          exact ⟨turned, by rw [← hleft]; exact hturned, hmarks⟩
      | cons a rest =>
          obtain ⟨stage, hout⟩ | hout | hfailed :=
            e.watch_cases r kind hleft h
          · rw [hout] at hok ⊢
            obtain ⟨turned, hturned, hmarks⟩ :=
              ih { e with stage } hrole _ hok
            exact ⟨turned, by rw [← hleft]; exact hturned, hmarks⟩
          · rw [hout] at hok ⊢
            obtain ⟨turned, hturned, hmarks⟩ :=
              ih ⟨e.role, e.ban, rest, .check, true⟩ hrole _ fun c hm =>
                hok c (List.mem_append_right _ hm)
            refine ⟨a :: turned, congrArg (a :: ·) hturned, ?_⟩
            dsimp only
            rw [hmarks, hrole]
            unfold Batch.marks
            rw [List.filter_cons]
            split <;> simp
          · exact absurd (List.mem_append_left _ hfailed) (hok a)

end Errand

end Stages

-- ============================================================ the race

/-- How far a call has come. -/
inductive Progress where
  | ahead
  | under (e : Errand)
  | returned

/-- A ban and an unban of one source, each as far as it has come. -/
structure Race where
  ward : Ward
  progress : Batch.Kind → Progress := fun _ => .ahead

namespace Race

/-- One side has come further. -/
def come (x : Race) (kind : Batch.Kind) (p : Progress) : Race :=
  { x with progress := Function.update x.progress kind p }

/-- A side changes the roster. -/
def withRoster (x : Race) (roster : Roster) : Race :=
  { x with ward := { x.ward with roster } }

variable {σ : Type}

/-- A side begins. -/
def setOut (o : Offence) (x : Race) :
    Batch.Kind → Work σ (Race × List Mark)
  | .ban => do
    let (_, roster, e?) ← x.ward.roster.openBan o
    let x := x.withRoster roster
    match e? with
    | some e => return (x.come .ban (.under e), [.entered])
    | none => return (x.come .ban .returned, [])
  | .unban => do
    match ← x.ward.roster.openUnban o.source with
    | .ok (roster, e) =>
      return ((x.withRoster roster).come .unban (.under e), [.removed])
    | .error _ => return (x.come .unban .returned, [])

/-- A side ends when the actions have had their turns. -/
def close (o : Offence) (x : Race) (e : Errand) :
    Batch.Kind → Work σ (Race × List Mark)
  | .ban => do
    let (roster, table) ← x.ward.roster.closeBan x.ward.table o e
    let x : Race := { x with ward := { roster, table } }
    return (x.come .ban .returned, if e.done then [] else [.withdrawn])
  | .unban => return (x.come .unban .returned, [])

/-- One move of a side, with its marks. -/
def move [Shell σ] (o : Offence) (x : Race) (kind : Batch.Kind) :
    Work σ (Race × List Mark) :=
  match x.progress kind with
  | .ahead => x.setOut o kind
  | .under e =>
    if e.left.isEmpty then x.close o e kind
    else do
      let (e, marks) ← e.watch x.ward.roster kind
      return (x.come kind (.under e), marks)
  | .returned => return (x, [])

/-- Moves of the sides in any order, with their marks. -/
def go [Shell σ] (o : Offence) (x : Race) :
    List Batch.Kind → Work σ (Race × List Mark)
  | [] => return (x, [])
  | kind :: rest => do
    let (x, marks) ← x.move o kind
    let (x, more) ← go o x rest
    return (x, marks ++ more)

end Race

-- ====================================================== what a move does

/-- The event of the ban that an offence leads to. -/
def newEvent (o : Offence) : Ban.Event := Ban.event (.ofOffence o o.time 0)

/-- What one move can do, with the marks that go with it. Nothing is said
of moves in which an action fails. -/
inductive Turn (o : Offence) (x : Race) : List Mark → Race → Prop
  /-- The side has come to its end before. -/
  | rest : Turn o x [] x
  /-- The source is banned already: no event comes or goes. -/
  | refused {roster : Roster} (ahead : x.progress .ban = .ahead)
      (actions : roster.actions = x.ward.roster.actions)
      (events : roster.roll.events = x.ward.roster.roll.events) :
      Turn o x [] ((x.withRoster roster).come .ban .returned)
  /-- A source without a ban gets one. -/
  | entered {b : Ban} (ahead : x.progress .ban = .ahead)
      (source : b.source = o.source) (event : b.event = newEvent o)
      (absent : x.ward.roster.roll.get? o.source = none) :
      Turn o x [.entered]
        ((x.withRoster { x.ward.roster with
            roll := (x.ward.roster.roll.add b).2 }).come .ban
          (.under (.setOut .ban b x.ward.roster.actions)))
  /-- There is no ban to lift. -/
  | missed (ahead : x.progress .unban = .ahead) :
      Turn o x [] (x.come .unban .returned)
  /-- The ban is taken off the roll. -/
  | removed {b : Ban} (ahead : x.progress .unban = .ahead)
      (present : x.ward.roster.roll.get? o.source = some b) :
      Turn o x [.removed]
        ((x.withRoster { x.ward.roster with
            roll := x.ward.roster.roll.keep fun b =>
              !(b.source == o.source) }).come .unban
          (.under (.setOut .unban b x.ward.roster.actions)))
  /-- An action comes to another stage of its turn. -/
  | staged {kind : Batch.Kind} {e : Errand} {stage : Stage}
      (under : x.progress kind = .under e) (some : e.left ≠ []) :
      Turn o x [] (x.come kind (.under { e with stage }))
  /-- An action ends its turn, and has run its command if it has one. -/
  | acted {kind : Batch.Kind} {e : Errand} {a : Action}
      {rest : List Action} (under : x.progress kind = .under e)
      (left : e.left = a :: rest) :
      Turn o x
        (if a.hasCommand e.role e.ban.event then [.ran kind a] else [])
        (x.come kind (.under ⟨e.role, e.ban, rest, .check, true⟩))
  /-- An action fails. -/
  | failed {kind : Batch.Kind} {a : Action} {marks : List Mark}
      {x' : Race} (failed : .failed kind a ∈ marks) : Turn o x marks x'
  /-- All actions have had their turns. -/
  | closed {kind : Batch.Kind} {e : Errand}
      (under : x.progress kind = .under e) (none : e.left = []) :
      Turn o x [] (x.come kind .returned)
  /-- All actions have had their turns, and the ban is taken back. -/
  | withdrawn {e : Errand} {x' : Race}
      (under : x.progress .ban = .under e) (none : e.left = [])
      (undone : e.done = false) : Turn o x [.withdrawn] x'

namespace Race

variable {σ : Type} {o : Offence} {x : Race}

theorem turn_of_ban (ahead : x.progress .ban = .ahead) (h : Host σ) :
    Turn o x ((x.setOut o .ban).result h).2
      ((x.setOut o .ban).result h).1 := by
  obtain ⟨b, hb⟩ : ∃ b, x.ward.roster.roll.banOf o o.time = b :=
    ⟨_, rfl⟩
  have hsource : b.source = o.source := by
    rw [← hb]
    rfl
  have hevent : b.event = newEvent o := by
    rw [← hb]
    rfl
  simp only [setOut, Roster.openBan, Roster.enter, hb]
  cases hget : x.ward.roster.roll.get? b.source with
  | none =>
      rw [(Ban.Roll.add_effect_iff _ _).mpr hget]
      exact .entered ahead hsource hevent (hsource ▸ hget)
  | some old =>
      obtain ⟨heffect, hevents⟩ := Ban.Roll.add_of_present hget
      cases he : (x.ward.roster.roll.add b).1 with
      | banned => exact absurd he heffect
      | prolonged => exact .refused ahead rfl hevents
      | alreadyBanned => exact .refused ahead rfl hevents

theorem turn_of_unban (hunique : x.ward.roster.roll.Unique)
    (ahead : x.progress .unban = .ahead) (h : Host σ) :
    Turn o x ((x.setOut o .unban).result h).2
      ((x.setOut o .unban).result h).1 := by
  simp only [setOut, Roster.openUnban, Ban.Roll.remove_eq hunique]
  cases hget : x.ward.roster.roll.get? o.source with
  | none => exact .missed ahead
  | some b => exact .removed ahead hget

theorem turn_of_close {kind : Batch.Kind} {e : Errand}
    (hunder : x.progress kind = .under e) (hnone : e.left = [])
    (h : Host σ) :
    Turn o x ((x.close o e kind).result h).2
      ((x.close o e kind).result h).1 := by
  cases kind with
  | unban => exact .closed hunder hnone
  | ban =>
      simp only [close, Roster.closeBan]
      cases hdone : e.done with
      | true => exact .closed hunder hnone
      | false => exact .withdrawn hunder hnone hdone

/-- Every move is one of the turns. -/
theorem move_turn [Shell σ] (hunique : x.ward.roster.roll.Unique)
    (kind : Batch.Kind) (h : Host σ) :
    Turn o x ((x.move o kind).result h).2
      ((x.move o kind).result h).1 := by
  unfold move
  cases hp : x.progress kind with
  | returned => exact .rest
  | ahead =>
      cases kind with
      | ban => exact turn_of_ban hp h
      | unban => exact turn_of_unban hunique hp h
  | under e =>
      dsimp only
      cases hleft : e.left with
      | nil => exact turn_of_close hp hleft h
      | cons a rest =>
          simp only [List.isEmpty_cons, Bool.false_eq_true, if_false,
            Work.result_bind]
          obtain ⟨stage, hout⟩ | hout | hfailed :=
            e.watch_cases x.ward.roster kind hleft h
          · rw [hout]
            exact .staged hp (by simp [hleft])
          · rw [hout]
            exact .acted hp hleft
          · exact .failed hfailed

end Race

end Gatewatch.Action
