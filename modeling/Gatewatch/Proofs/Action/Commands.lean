/-
Actions and their commands: which of them are run.

An action has a command for an event when its template comes to more
than blanks (`hasCommand`); an empty template comes to nothing, whatever
the tags are, and one that begins with a letter always comes to
something. A blank command has nothing to do, and every other command is
run once (`runs_execute`). So an action that succeeds has run a
command exactly when it has one (`runs_perform_iff`).
-/
import Gatewatch.Action.Basic
import Gatewatch.Proofs.Outcome
import Gatewatch.Proofs.Work

namespace Gatewatch.Action

open Work

variable {σ : Type}

-- ========================================================== having one

/-- Whether an action has a command for an event: its template comes to
more than blanks. -/
def hasCommand (a : Action) (role : Role) (event : Ban.Event) : Bool :=
  match substitute (a.command role) a.tags (some event) with
  | .ok command => !Text.isBlank command
  | .error _ => false

/-- An empty template comes to an empty command. -/
theorem eq_empty_of_substitute {tags : TagMap} {event : Option Ban.Event}
    {command : String} (h : substitute "" tags event = .ok command) :
    command = "" := by
  have hnothing : ∀ value?, replaceTags value? "" = "" := by
    intro value?
    simp [replaceTags, pieces]
  obtain ⟨m, -, hm⟩ := Outcome.bind_eq_ok.mp h
  injection hm with hm
  rw [← hm, hnothing]
  cases event <;> simp [hnothing, Text.replaceAll, Text.replaceChars]

/-- An action with an empty template has no command. -/
theorem hasCommand_of_isEmpty {a : Action} {role : Role}
    (h : (a.command role).isEmpty = true) (event : Ban.Event) :
    a.hasCommand role event = false := by
  unfold hasCommand
  rw [String.isEmpty_iff.mp h]
  split
  case h_1 hcommand =>
    rw [eq_empty_of_substitute hcommand]
    rfl
  case h_2 => rfl

/-- A letter in front of the first tag stays in front. -/
theorem replaceTags_cons (value? : String → Option String)
    {text : String} {c : Char} {cs : List Char}
    (htext : text.toList = c :: cs) (hc : c ≠ '<') :
    ∃ rest, (replaceTags value? text).toList = c :: rest := by
  unfold replaceTags
  rw [htext, pieces, if_neg hc, List.flatMap_cons, String.toList_ofList]
  exact ⟨_, rfl⟩

/-- A letter in front of the first mark stays in front. -/
theorem replaceAll_cons (value : String) {text mark : String}
    {c d : Char} {cs ds : List Char} (htext : text.toList = c :: cs)
    (hmark : mark.toList = d :: ds) (hc : c ≠ d) :
    ∃ rest, (Text.replaceAll text mark value).toList = c :: rest := by
  unfold Text.replaceAll
  rw [htext, hmark, String.toList_ofList, Text.replaceChars,
    if_neg (by simp [hc.symm])]
  exact ⟨_, rfl⟩

/-- An action has a command for every event when its tags can be expanded
and its template begins with a letter that is neither blank nor the
bracket of a tag. -/
theorem hasCommand_of_begins {a : Action} {role : Role} {tags : TagMap}
    {c : Char} {cs : List Char} (htags : a.tags.resolve = .ok tags)
    (htemplate : (a.command role).toList = c :: cs) (hc : c ≠ '<')
    (hblank : Unicode.isBlank c = false) (event : Ban.Event) :
    a.hasCommand role event = true := by
  obtain ⟨_, hfirst⟩ := replaceTags_cons tags.get? htemplate hc
  obtain ⟨_, hsecond⟩ := replaceTags_cons (eventValue? event) hfirst hc
  obtain ⟨_, hthird⟩ := replaceAll_cons "\n" hsecond
    (show breakMark.toList = '<' :: _ from rfl) hc
  have hcommand : substitute (a.command role) a.tags (some event)
      = .ok (Text.replaceAll (replaceTags (eventValue? event)
        (replaceTags tags.get? (a.command role))) breakMark "\n") := by
    unfold substitute
    rw [htags]
    rfl
  unfold hasCommand
  rw [hcommand]
  simp only [Text.isBlank, hthird, List.all_cons, hblank]
  rfl

-- ========================================================= running it

theorem runs_report (command : String) (finish : Finish) :
    (report command finish : Work σ _).Runs 0 := by
  unfold report
  split
  case h_1 => exact .note _ _
  case h_2 code _ stderr _ =>
    cases code
    all_goals
      refine .behind (.note _ _) fun _ => .perhaps (.note _ _) ?_
      split
      case h_1 => exact .note _ _
      case h_2 => exact .pure ()

variable [Shell σ]

theorem runs_runNoted (command : String) :
    (runNoted command : Work σ _).Runs 1 := by
  refine .before (.run command) fun finish => ?_
  refine .before ?_ fun _ => .pure finish
  split
  case h_1 => exact .note _ _
  case h_2 => exact .pure ()

/-- A command is run once, unless there is nothing to do. -/
theorem runs_execute (command : String) :
    (execute command : Work σ _).Runs
      (if Text.isBlank command then 0 else 1) := by
  refine .behind (.note _ _) fun _ => ?_
  split
  case isTrue => exact .behind (.note _ _) fun _ => .pure _
  case isFalse =>
    refine .perhaps (.note _ _) ?_
    refine .before (runs_runNoted command) fun finish => ?_
    split
    case isTrue => exact .behind (.note _ _) fun _ => .pure _
    case isFalse =>
      exact .behind (runs_report command finish) fun _ => .pure _

/-- How many commands a template gives: one, unless it is blank or its
tags cannot be expanded. -/
def cost (a : Action) (template : String) (event : Option Ban.Event) :
    Nat :=
  match substitute template a.tags event with
  | .ok command => if Text.isBlank command then 0 else 1
  | .error _ => 0

/-- The command that a template gives is run once. -/
theorem runs_perform (a : Action) (template : String)
    (event : Option Ban.Event) :
    (a.perform template event : Work σ _).Runs (a.cost template event) := by
  unfold perform render cost
  cases substitute template a.tags event with
  | error e => exact fun _ => rfl
  | ok command => exact runs_execute command

/-- To make sure of the environment takes some commands, or none. -/
theorem grows_ensure (a : Action) : (a.ensure : Work σ _).Grows := by
  have hcheck : (a.runCheck : Work σ _).Grows :=
    .of_runs (a.runs_perform _ _)
  have hstop : (a.runStop : Work σ _).Grows := .of_runs (a.runs_perform _ _)
  have hstart : (a.runStart : Work σ _).Grows :=
    .of_runs (a.runs_perform _ _)
  have hanswer : (do
      if ← a.runCheck then return true
      Work.note .error (a.name ++ ": unable to restore environment")
      return false : Work σ Bool).Grows := by
    refine .bind hcheck fun ok => ?_
    split
    case isTrue => exact .pure _
    case isFalse => exact .bind (.note _ _) fun _ => .pure _
  refine .bind hcheck fun ok => ?_
  split
  case isTrue => exact .pure _
  case isFalse =>
    exact .bind (.note _ _) fun _ => .bind hstop fun _ =>
      .bind hstart fun _ => hanswer

/-- To carry an event out takes some commands, or none. -/
theorem grows_carryOut (a : Action) (template : String)
    (event : Ban.Event) : (a.carryOut template event : Work σ _).Grows := by
  unfold carryOut
  split
  case isTrue => exact .bind (.note _ _) fun _ => .pure _
  case isFalse =>
    refine .bind a.grows_ensure fun ok => ?_
    split
    case isTrue => exact .of_runs (a.runs_perform _ _)
    case isFalse => exact .pure _

/-- When an action has succeeded, its command was run if it has one. -/
theorem runs_perform_iff {a : Action} {role : Role} {event : Ban.Event}
    {h : Host σ}
    (hdone : (a.perform (a.command role) (some event)).result h = true) :
    h.runs < ((a.perform (a.command role) (some event)).after h).runs
      ↔ a.hasCommand role event = true := by
  unfold perform render at hdone ⊢
  unfold hasCommand
  cases hs : substitute (a.command role) a.tags (some event) with
  | error e =>
      rw [hs] at hdone
      cases hdone
  | ok command =>
      have hran : ((execute command).after h).runs
          = h.runs + if Text.isBlank command then 0 else 1 :=
        runs_execute command h
      show h.runs < ((execute command).after h).runs ↔ _
      rw [hran]
      by_cases hblank : Text.isBlank command = true <;> simp [hblank]

end Gatewatch.Action
