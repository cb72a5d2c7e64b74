/-
Work as a function of its surroundings: what a piece of work yields
(`Work.result`) and what it leaves behind (`Work.after`), each read
through the sequencing of work.

The notes on the way change no result, and what a note leaves behind are
the surroundings with the note recorded. Work that leaves nothing else
behind (`Work.OnlyNotes`) ran no command and changed no file but the log.
Neither notes nor commands touch the log's level and target, what resolves
names or what reports changes (`Host.Steady`), so most work keeps these as
they are (`Work.Keeps`). How many commands it ran is told by the
surroundings (`Work.Runs`), and no command is ever taken back
(`Work.Grows`).
-/
import Gatewatch.Host

namespace Gatewatch

namespace Host

variable {σ γ : Type}

/-- A part of the surroundings that neither notes nor commands touch. -/
structure Steady (part : Host σ → γ) : Prop where
  record : ∀ h n, part (h.record n) = part h
  run : ∀ h files shell runs,
    part { h with files, shell, runs } = part h

theorem Steady.foldl_record {part : Host σ → γ} (hpart : Steady part)
    (h : Host σ) (notes : List Note) :
    part (notes.foldl Host.record h) = part h := by
  induction notes generalizing h with
  | nil => rfl
  | cons note rest ih => exact (ih (h.record note)).trans (hpart.record h note)

/-- Notes go to the log, and leave it the log it is. -/
theorem steady_log : Steady (σ := σ) log :=
  ⟨fun _ _ => rfl, fun _ _ _ _ => rfl⟩

theorem steady_names : Steady (σ := σ) names :=
  ⟨fun _ _ => rfl, fun _ _ _ _ => rfl⟩

theorem steady_notifier : Steady (σ := σ) notifier :=
  ⟨fun _ _ => rfl, fun _ _ _ _ => rfl⟩

theorem steady_decoders : Steady (σ := σ) decoders :=
  ⟨fun _ _ => rfl, fun _ _ _ _ => rfl⟩

end Host

namespace Work

variable {σ α β γ : Type}

-- ============================================== results and aftermath

/-- What a piece of work yields. -/
def result (x : Work σ α) (h : Host σ) : α := (x h).value.1

/-- The surroundings that a piece of work leaves behind. -/
def after (x : Work σ α) (h : Host σ) : Host σ := (x h).value.2

@[simp] theorem result_pure (a : α) (h : Host σ) :
    (pure a : Work σ α).result h = a := rfl

@[simp] theorem result_bind (x : Work σ α) (f : α → Work σ β)
    (h : Host σ) :
    (x >>= f).result h = (f (x.result h)).result (x.after h) := rfl

@[simp] theorem after_bind (x : Work σ α) (f : α → Work σ β)
    (h : Host σ) :
    (x >>= f).after h = (f (x.result h)).after (x.after h) := rfl

@[simp] theorem result_map (f : α → β) (x : Work σ α) (h : Host σ) :
    (f <$> x).result h = f (x.result h) := rfl

@[simp] theorem result_get (f : Host σ → Work σ β) (h : Host σ) :
    (get >>= f : Work σ β).result h = (f h).result h := rfl

@[simp] theorem after_get (f : Host σ → Work σ β) (h : Host σ) :
    (get >>= f : Work σ β).after h = (f h).after h := rfl

@[simp] theorem after_note (level : Level) (text : String)
    (h : Host σ) :
    (Work.note level text).after h = h.record ⟨level, text⟩ := rfl

@[simp] theorem result_ofNoted (x : Noted α) (h : Host σ) :
    (ofNoted x : Work σ α).result h = x.value := rfl

/-- What a computation leaves behind are its notes, in order. -/
@[simp] theorem after_ofNoted (x : Noted α) (h : Host σ) :
    (ofNoted x : Work σ α).after h = x.notes.foldl Host.record h := rfl

/-- Surroundings that are put in place, and then notes, have the log that
was put in place. -/
theorem log_after_set (h h' : Host σ) (x : Noted α) (b : β) :
    ((do MonadState.set h'; let _ ← ofNoted x; return b : Work σ β).after
      h).log = h'.log := Host.steady_log.foldl_record h' x.notes

@[simp] theorem result_files (h : Host σ) :
    (files : Work σ Disk.Tree).result h = h.files := rfl

@[simp] theorem after_files (h : Host σ) :
    (files : Work σ Disk.Tree).after h = h := rfl

@[simp] theorem result_names (h : Host σ) :
    (names : Work σ Net.Resolver).result h = h.names := rfl

@[simp] theorem after_names (h : Host σ) :
    (names : Work σ Net.Resolver).after h = h := rfl

@[simp] theorem result_decoders (h : Host σ) :
    (decoders : Work σ Text.Decoders).result h = h.decoders := rfl

@[simp] theorem after_decoders (h : Host σ) :
    (decoders : Work σ Text.Decoders).after h = h := rfl

-- ========================================================= only notes

/-- Work that, begun in some surroundings, leaves nothing behind but
notes. -/
def OnlyNotes (x : Work σ α) (h : Host σ) : Prop :=
  ∃ notes : List Note, x.after h = notes.foldl Host.record h

namespace OnlyNotes

theorem pure (a : α) (h : Host σ) : (Pure.pure a : Work σ α).OnlyNotes h :=
  ⟨[], rfl⟩

theorem ofNoted (x : Noted α) (h : Host σ) :
    (Work.ofNoted x : Work σ α).OnlyNotes h :=
  ⟨x.notes, rfl⟩

theorem note (level : Level) (text : String) (h : Host σ) :
    (Work.note level text).OnlyNotes h :=
  ⟨[⟨level, text⟩], rfl⟩

theorem bind {x : Work σ α} {f : α → Work σ β} {h : Host σ}
    (hx : x.OnlyNotes h) (hf : (f (x.result h)).OnlyNotes (x.after h)) :
    (x >>= f).OnlyNotes h := by
  obtain ⟨first, hfirst⟩ := hx
  obtain ⟨then', hthen⟩ := hf
  refine ⟨first ++ then', ?_⟩
  rw [after_bind, hthen, hfirst, List.foldl_append]

theorem get {f : Host σ → Work σ β} {h : Host σ}
    (hf : (f h).OnlyNotes h) : (MonadState.get >>= f).OnlyNotes h := hf

/-- Notes leave what they do not touch. -/
theorem steady {x : Work σ α} {h : Host σ} (hx : x.OnlyNotes h)
    {part : Host σ → γ} (hpart : Host.Steady part) :
    part (x.after h) = part h := by
  obtain ⟨notes, hnotes⟩ := hx
  rw [hnotes, hpart.foldl_record]

end OnlyNotes

-- ====================================================== what is kept

/-- Work that leaves a part of the surroundings as it is. -/
def Keeps (part : Host σ → γ) (x : Work σ α) : Prop :=
  ∀ h, part (x.after h) = part h

namespace Keeps

variable {part : Host σ → γ}

theorem pure (a : α) : (Pure.pure a : Work σ α).Keeps part := fun _ => rfl

theorem bind {x : Work σ α} {f : α → Work σ β} (hx : x.Keeps part)
    (hf : ∀ a, (f a).Keeps part) : (x >>= f).Keeps part := fun h => by
  rw [after_bind, hf, hx]

/-- Work that may be done before more of it, or left out. -/
theorem perhaps {p : Prop} [Decidable p] {x : Work σ α} {y : Work σ β}
    (hx : x.Keeps part) (hy : y.Keeps part) :
    (if p then (do let _ ← x; y) else y).Keeps part := by
  split
  case isTrue => exact bind hx fun _ => hy
  case isFalse => exact hy

theorem of_onlyNotes (hpart : Host.Steady part) {x : Work σ α}
    (hx : ∀ h, x.OnlyNotes h) : x.Keeps part :=
  fun h => (hx h).steady hpart

theorem note (hpart : Host.Steady part) (level : Level) (text : String) :
    (Work.note level text : Work σ Unit).Keeps part :=
  fun h => hpart.record h _

theorem ofNoted (hpart : Host.Steady part) (x : Noted α) :
    (Work.ofNoted x : Work σ α).Keeps part :=
  fun h => hpart.foldl_record h x.notes

theorem run [Shell σ] (hpart : Host.Steady part) (command : String) :
    (Work.run command : Work σ Finish).Keeps part :=
  fun h => hpart.run h _ _ _

end Keeps

-- =========================================================== commands

/-- Work that runs some number of commands. -/
def Runs (n : Nat) (x : Work σ α) : Prop :=
  ∀ h : Host σ, (x.after h).runs = h.runs + n

namespace Runs

theorem pure (a : α) : (Pure.pure a : Work σ α).Runs 0 := fun _ => rfl

theorem note (level : Level) (text : String) :
    (Work.note level text : Work σ Unit).Runs 0 := fun _ => rfl

theorem run [Shell σ] (command : String) :
    (Work.run command : Work σ Finish).Runs 1 := fun _ => rfl

/-- Work that runs no command, and then some that does. -/
theorem behind {n : Nat} {x : Work σ α} {f : α → Work σ β}
    (hx : x.Runs 0) (hf : ∀ a, (f a).Runs n) :
    (x >>= f).Runs n := fun h => by
  rw [after_bind, hf, hx]
  rfl

/-- Work that runs commands, and then some that does not. -/
theorem before {n : Nat} {x : Work σ α} {f : α → Work σ β}
    (hx : x.Runs n) (hf : ∀ a, (f a).Runs 0) :
    (x >>= f).Runs n := fun h => by
  rw [after_bind, hf, hx]
  rfl

/-- Work that runs no command may be done before more of it, or left
out. -/
theorem perhaps {n : Nat} {p : Prop} [Decidable p] {x : Work σ α}
    {y : Work σ β} (hx : x.Runs 0) (hy : y.Runs n) :
    (if p then (do let _ ← x; y) else y).Runs n := by
  split
  case isTrue => exact behind hx fun _ => hy
  case isFalse => exact hy

end Runs

/-- Work that runs some commands or none; no command is taken back. -/
def Grows (x : Work σ α) : Prop := ∀ h : Host σ, h.runs ≤ (x.after h).runs

namespace Grows

theorem of_runs {n : Nat} {x : Work σ α} (hx : x.Runs n) : x.Grows :=
  fun h => by
    rw [hx h]
    exact Nat.le_add_right _ _

theorem pure (a : α) : (Pure.pure a : Work σ α).Grows := of_runs (.pure a)

theorem note (level : Level) (text : String) :
    (Work.note level text : Work σ Unit).Grows := of_runs (.note level text)

theorem bind {x : Work σ α} {f : α → Work σ β} (hx : x.Grows)
    (hf : ∀ a, (f a).Grows) : (x >>= f).Grows := fun h =>
  Nat.le_trans (hx h) (hf (x.result h) (x.after h))

/-- Work that may be done before more of it, or left out. -/
theorem perhaps {p : Prop} [Decidable p] {x : Work σ α} {y : Work σ β}
    (hx : x.Grows) (hy : y.Grows) :
    (if p then (do let _ ← x; y) else y).Grows := by
  split
  case isTrue => exact bind hx fun _ => hy
  case isFalse => exact hy

end Grows

/-- Work, with the number of commands that it ran. -/
def counted (x : Work σ α) : Work σ (α × Nat) := do
  let start := (← get).runs
  let a ← x
  return (a, (← get).runs - start)

/-- To look around and not to care is nothing. -/
theorem get_bind_const (x : Work σ α) :
    (MonadState.get >>= fun _ => x : Work σ α) = x := rfl

/-- Counting the commands changes nothing. -/
theorem fst_counted (x : Work σ α) : Prod.fst <$> counted x = x := by
  simp only [counted, map_bind, map_pure, get_bind_const, bind_pure]

/-- What is made of the result is made of the counted one. -/
theorem map_eq_map_counted (f : α → β) (x : Work σ α) :
    f <$> x = (fun out => f out.1) <$> counted x := by
  calc f <$> x = f <$> Prod.fst <$> counted x := by rw [fst_counted]
    _ = (fun out => f out.1) <$> counted x := (comp_map ..).symm

@[simp] theorem result_counted (x : Work σ α) (h : Host σ) :
    (counted x).result h = (x.result h, (x.after h).runs - h.runs) := rfl

@[simp] theorem after_counted (x : Work σ α) (h : Host σ) :
    (counted x).after h = x.after h := rfl

/-- Work whose result tells how many commands it ran, `past` more
included that were run before. -/
def Tallies (past : Nat) (tally : α → Nat) (x : Work σ α) : Prop :=
  ∀ h : Host σ, (x.after h).runs + past = h.runs + tally (x.result h)

namespace Tallies

variable {past : Nat} {tally : α → Nat}

theorem pure {a : α} (ha : tally a = past) :
    (Pure.pure a : Work σ α).Tallies past tally := fun h => by
  rw [result_pure, ha]
  rfl

/-- Notes before the work. -/
theorem note {level : Level} {text : String} {f : Unit → Work σ α}
    (hf : (f ()).Tallies past tally) :
    (Work.note level text >>= f).Tallies past tally := fun h =>
  hf (h.record ⟨level, text⟩)

/-- Work that tells, and then more of it. -/
theorem bind {x : Work σ β} {f : β → Work σ α} {first : β → Nat}
    (hx : x.Tallies 0 first)
    (hf : ∀ b, (f b).Tallies (past + first b) tally) :
    (x >>= f).Tallies past tally := fun h => by
  have hb := hx h
  have ha := hf (x.result h) (x.after h)
  rw [result_bind, after_bind]
  omega

/-- What is counted is told. -/
theorem counted {x : Work σ α} (hx : x.Grows) :
    (Work.counted x).Tallies 0 Prod.snd := fun h => by
  have hle := hx h
  rw [result_counted, after_counted]
  dsimp only
  omega

end Tallies

end Work

end Gatewatch
