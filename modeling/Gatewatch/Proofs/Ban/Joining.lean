/-
The roll told from its history.

# The second account

A roll keeps one ban of a source, and of that ban the end is written as
a duration behind its start, where a negative one means for ever. The
account here keeps what was given: for each source the number of the
step that entered it last, and all bans added for it from then on
(`Roll.record`). The ban in the roll joins these (`Joins`): it is the
first of them, up to the latest of their ends. Ends are compared as
times, with one beyond all times for the bans that have none
(`Ban.ends`).

# The invariant

`Roll.Accounts` says that every ban in the roll joins the bans of its
source, and that the bans stand in the order in which they were entered;
so no source has two. What needs an argument is an extension: the later
end is written as a new duration, which must be neither negative, or the
ban would last for ever, nor too large for its word. It is not negative
because the end it replaces was behind the start already, and it is not
too large when the time from the start of a ban to the end of another
one of its source can be told (`Told`).
-/
import Gatewatch.Proofs.Ban.Roll
import Mathlib.Data.List.MinMax
import Mathlib.Order.WithBot

namespace Gatewatch.Ban

open Net (Address)

-- =============================================================== ends

/-- The end of a ban: a time, or beyond all times. -/
inductive End where
  | time (t : Int)
  | never
deriving DecidableEq

namespace End

/-- Whether an end is not behind another one. -/
def le : End → End → Bool
  | time s, time t => s ≤ t
  | never, time _ => false
  | _, never => true

instance : LinearOrder End where
  le a b := a.le b = true
  le_refl a := by cases a <;> simp [le]
  le_trans a b c := by
    cases a <;> cases b <;> cases c <;> simp [le]
    omega
  le_antisymm a b := by
    cases a <;> cases b <;> simp [le]
    omega
  le_total a b := by
    cases a <;> cases b <;> simp [le]
    omega
  toDecidableLE a b := inferInstanceAs (Decidable (a.le b = true))

@[simp] theorem time_le_time {s t : Int} : time s ≤ time t ↔ s ≤ t :=
  decide_eq_true_iff

@[simp] theorem time_lt_time {s t : Int} : time s < time t ↔ s < t := by
  rw [← not_le, time_le_time, Int.not_le]

@[simp] theorem le_never (a : End) : a ≤ never := by
  cases a <;> rfl

@[simp] theorem not_never_le_time (t : Int) : ¬ never ≤ time t :=
  Bool.false_ne_true

end End

/-- The end of a ban; a ban without one ends beyond all times. -/
def ends (b : Ban) : End :=
  if b.duration < 0 then .never else .time (b.start + b.duration)

/-- The latest of the ends of some bans. -/
def latestEnd (bans : List Ban) : WithBot End := (bans.map ends).maximum

/-- One more ban can only move the latest end behind its own. -/
theorem latestEnd_concat (bans : List Ban) (b : Ban) :
    latestEnd (bans ++ [b]) = max (latestEnd bans) b.ends := by
  unfold latestEnd
  rw [List.map_append]
  exact List.maximum_concat b.ends (bans.map ends)

/-- A time that can be told. -/
def IsTold (t : Int) : Prop := -(latest + 1) ≤ t ∧ t ≤ latest

instance (t : Int) : Decidable (IsTold t) :=
  inferInstanceAs (Decidable (_ ∧ _))

/-- The times of a ban can be told. -/
structure Fits (b : Ban) : Prop where
  start : IsTold b.start
  duration : IsTold b.duration
  finish : 0 ≤ b.duration → b.start + b.duration ≤ latest

instance (b : Ban) : Decidable b.Fits :=
  decidable_of_iff (IsTold b.start ∧ IsTold b.duration
      ∧ (0 ≤ b.duration → b.start + b.duration ≤ latest))
    ⟨fun h => ⟨h.1, h.2.1, h.2.2⟩, fun h => ⟨h.start, h.duration, h.finish⟩⟩

/-- Some bans whose times can be told, and so can the time from the start
of each to the end of any other one of its source. -/
structure Told (bans : List Ban) : Prop where
  fits : ∀ b ∈ bans, b.Fits
  span : ∀ b ∈ bans, ∀ c ∈ bans, b.source = c.source → 0 ≤ c.duration →
    c.start + c.duration - b.start ≤ latest

instance (bans : List Ban) : Decidable (Told bans) :=
  decidable_of_iff ((∀ b ∈ bans, b.Fits) ∧ ∀ b ∈ bans, ∀ c ∈ bans,
      b.source = c.source → 0 ≤ c.duration →
        c.start + c.duration - b.start ≤ latest)
    ⟨fun h => ⟨h.1, h.2⟩, fun h => ⟨h.fits, h.span⟩⟩

/-- The end that is told is the end. -/
theorem Fits.finish?_eq {b : Ban} (hb : b.Fits) :
    b.finish? = if b.duration < 0 then none
      else some (b.start + b.duration) := by
  unfold finish? isPermanent
  by_cases hd : b.duration < 0
  · simp [hd]
  · have hle := hb.finish (by omega)
    simp [hd, hle]

/-- A ban has ended when its end is not behind the time. -/
theorem Fits.isExpired_iff {b : Ban} (hb : b.Fits) (now : Int) :
    b.isExpired now = true ↔ b.ends ≤ .time now := by
  unfold isExpired ends
  rw [hb.finish?_eq]
  by_cases hd : b.duration < 0
  · simp [hd]
  · simp [hd]

-- ========================================================= extensions

/-- What an extension does: the end becomes the later one of the two, the
times can still be told, and the effect tells whether the end moved. -/
theorem extend_spec {old new : Ban} (hold : old.Fits) (hnew : new.Fits)
    (hspan : 0 ≤ new.duration →
      new.start + new.duration - old.start ≤ latest) :
    (extend old new).1.ends = max old.ends new.ends
      ∧ (extend old new).1.Fits
      ∧ (extend old new).2
        = if old.ends < new.ends then .prolonged else .alreadyBanned := by
  have hword : (0 : Int) ≤ latest := by decide
  unfold extend
  rw [hold.finish?_eq, hnew.finish?_eq]
  by_cases ho : old.duration < 0
  · have hend : old.ends = .never := if_pos ho
    rw [if_pos ho, hend]
    exact ⟨by simp, hold, by simp⟩
  · have hend : old.ends = .time (old.start + old.duration) := if_neg ho
    rw [if_neg ho, hend]
    by_cases hn : new.duration < 0
    · have htop : new.ends = .never := if_pos hn
      rw [if_pos hn, htop]
      refine ⟨by simp [ends], ⟨hold.start, ?_, fun h => ?_⟩, by simp⟩
      · exact ⟨by show -(latest + 1) ≤ -1; omega, by show -1 ≤ latest; omega⟩
      · change (0 : Int) ≤ -1 at h
        omega
    · have hlater : new.ends = .time (new.start + new.duration) :=
        if_neg hn
      rw [if_neg hn, hlater]
      have hspan := hspan (by omega)
      have hfinish := hnew.finish (by omega)
      by_cases hlt : old.start + old.duration < new.start + new.duration
      · -- the new duration is longer than the old one, so not negative
        have hnonneg : ¬ new.start + new.duration - old.start < 0 := by omega
        have hwrap : Word.wrap 64 (new.start + new.duration - old.start)
            = new.start + new.duration - old.start := by
          have hsize : latest + 1 = (Word.size 63 : Int) := by decide
          exact Word.wrap_of_fits (by decide)
            ⟨show -(Word.size 63 : Int) ≤ _ by omega,
              show _ < (Word.size 63 : Int) by omega⟩
        simp only [hlt, if_true, hwrap]
        refine ⟨?_, ⟨hold.start, ⟨?_, hspan⟩, fun _ => ?_⟩, ?_⟩
        · rw [max_eq_right (End.time_le_time.2 (Int.le_of_lt hlt))]
          simp only [ends, if_neg hnonneg]
          congr 1
          omega
        · show -(latest + 1) ≤ new.start + new.duration - old.start
          omega
        · show old.start + (new.start + new.duration - old.start) ≤ latest
          omega
        · rw [if_pos (End.time_lt_time.2 hlt)]
      · simp only [hlt, if_false]
        refine ⟨?_, hold, ?_⟩
        · rw [hend, max_eq_left (End.time_le_time.2 (Int.not_lt.1 hlt))]
        · rw [if_neg (mt End.time_lt_time.1 hlt)]

/-- A ban joins some bans of its source: it is the first of them, up to
the latest of their ends. -/
structure Joins (e : Ban) (bans : List Ban) : Prop where
  source : ∀ b ∈ bans, b.source = e.source
  first : bans.head?.map (fun b => (b.start, b.attempts, b.lines))
    = some (e.start, e.attempts, e.lines)
  finish : latestEnd bans = e.ends

/-- A ban joins itself. -/
theorem joins_single (b : Ban) : b.Joins [b] where
  source _ hc := by rw [List.mem_singleton.1 hc]
  first := rfl
  finish := by simp [latestEnd]

/-- The start of a ban is that of the first one that it joins. -/
theorem Joins.exists_start {e : Ban} {bans : List Ban} (h : e.Joins bans) :
    ∃ b ∈ bans, b.source = e.source ∧ b.start = e.start := by
  obtain ⟨b, hb, heq⟩ := Option.map_eq_some_iff.1 h.first
  have hmem : b ∈ bans := List.mem_of_head? hb
  exact ⟨b, hmem, h.source b hmem, congrArg Prod.fst heq⟩

/-- An extended ban joins the one that extended it, too. -/
theorem Joins.extend {e b : Ban} {bans : List Ban} (h : e.Joins bans)
    (hsource : e.source = b.source)
    (hends : (extend e b).1.ends = max e.ends b.ends) :
    (extend e b).1.Joins (bans ++ [b]) where
  source c hc := by
    rw [extend_map Ban.source fun _ _ => rfl]
    rcases List.mem_append.1 hc with hc | hc
    · exact h.source c hc
    · rw [List.mem_singleton.1 hc, hsource]
  first := by
    have hsame := extend_map (fun b => (b.start, b.attempts, b.lines))
      (fun _ _ => rfl) e b
    obtain ⟨c, hc, heq⟩ := Option.map_eq_some_iff.1 h.first
    rw [List.head?_append, hc]
    exact congrArg some (heq.trans hsame.symm)
  finish := by
    rw [latestEnd_concat, h.finish, hends, WithBot.coe_max]

namespace Roll

-- ============================================================ history

/-- One use of a roll. -/
inductive Step where
  | add (b : Ban)
  | expire (now : Int)
  | remove (source : Address)
  | flush

/-- The roll after a step. -/
def step (r : Roll) : Step → Roll
  | .add b => (r.add b).2
  | .expire now => (r.expire now).2
  | .remove source => match r.remove source with
    | some (_, u) => u
    | none => r
  | .flush => r.flush.2

/-- The roll after steps. -/
def run (r : Roll) (steps : List Step) : Roll := steps.foldl step r

/-- The ban that a step adds. -/
def Step.added? : Step → Option Ban
  | .add b => some b
  | _ => none

/-- The effects of the bans that are added, in order. -/
def effects (r : Roll) : List Step → List Effect
  | [] => []
  | .add b :: rest => (r.add b).1 :: effects (r.add b).2 rest
  | s :: rest => effects (r.step s) rest

/-- Whether a step enters a source into the roll. -/
def enters (r : Roll) (s : Step) (source : Address) : Bool :=
  (r.get? source).isNone && ((r.step s).get? source).isSome

/-- What the history tells of a source: the number of the step that
entered it last, and the bans that were added for it from that step on. -/
structure Record where
  entered : Nat := 0
  bans : List Ban := []

/-- One step more, which has a number. -/
def Record.next (source : Address) (number : Nat) (r : Roll) (s : Step)
    (past : Record) : Record :=
  let kept := if r.enters s source then { entered := number } else past
  { kept with
    bans := kept.bans ++ s.added?.toList.filter (·.source = source) }

/-- The record of a source after steps, whose numbers go on from one. -/
def recordFrom (source : Address) (past : Record) (number : Nat)
    (r : Roll) : List Step → Record
  | [] => past
  | s :: rest =>
    recordFrom source (past.next source number r s) (number + 1) (r.step s)
      rest

/-- The record of a source after all steps so far. -/
def record (source : Address) (r : Roll) (steps : List Step) : Record :=
  recordFrom source {} 0 r steps

-- ======================================================= the account

/-- The roll tells of its sources what the history tells. The bans that
were ever added are among some, and `number` steps were made. -/
structure Accounts (all : List Ban) (number : Nat) (r : Roll)
    (past : Address → Record) : Prop where
  known : ∀ source, ∀ b ∈ (past source).bans, b ∈ all
  joins : ∀ e ∈ r.bans, e.Joins (past e.source).bans
  fits : ∀ e ∈ r.bans, e.Fits
  ordered : r.bans.Pairwise fun e f =>
    (past e.source).entered < (past f.source).entered
  entered_lt : ∀ e ∈ r.bans, (past e.source).entered < number

/-- An ordered roll has one ban of a source. -/
theorem Accounts.unique {all : List Ban} {number : Nat} {r : Roll}
    {past : Address → Record} (ha : Accounts all number r past) :
    r.Unique := by
  refine List.pairwise_map.2 (ha.ordered.imp fun hlt heq => ?_)
  rw [heq] at hlt
  exact Nat.lt_irrefl _ hlt

/-- A ban of a source that has one extends that one, and no other. -/
theorem setIn_of_mem {b old : Ban} {bans : List Ban}
    (hnd : (bans.map Ban.source).Nodup) (hold : old ∈ bans)
    (hsource : old.source = b.source) :
    setIn b bans
      = (bans.map fun e => if e.source = b.source then (extend e b).1 else e,
          (extend old b).2) := by
  induction bans with
  | nil => cases hold
  | cons e rest ih =>
      rw [List.map_cons, List.nodup_cons] at hnd
      by_cases he : e.source = b.source
      · have hrest : ∀ f ∈ rest, f.source ≠ b.source := by
          intro f hf hfb
          exact hnd.1 (List.mem_map.2 ⟨f, hf, hfb.trans he.symm⟩)
        have hmap : rest.map (fun e =>
            if e.source = b.source then (extend e b).1 else e) = rest := by
          rw [List.map_congr_left fun f hf => if_neg (hrest f hf)]
          exact List.map_id' rest
        obtain rfl : old = e := by
          rcases List.mem_cons.1 hold with h | h
          · exact h
          · exact absurd hsource (hrest old h)
        rw [setIn, if_pos he, List.map_cons, if_pos he, hmap]
      · have hmem : old ∈ rest := by
          rcases List.mem_cons.1 hold with rfl | h
          · exact absurd hsource he
          · exact h
        rw [setIn, if_neg he, List.map_cons, if_neg he, ih hnd.2 hmem]

/-- A step that adds no ban keeps those that pass a test. -/
theorem step_eq_keep {r : Roll} (hr : r.Unique) {s : Step}
    (hs : s.added? = none) : ∃ p, r.step s = r.keep p := by
  have hall : r = r.keep fun _ => true := by
    unfold keep
    rw [List.filter_eq_self.2 fun _ _ => rfl]
  cases s with
  | add b => cases hs
  | expire now => exact ⟨_, rfl⟩
  | remove source =>
      simp only [step, remove_eq hr]
      cases r.get? source with
      | none => exact ⟨_, hall⟩
      | some b => exact ⟨_, rfl⟩
  | flush =>
      refine ⟨fun _ => !true, ?_⟩
      show r.flush.2 = _
      rw [flush_eq]

/-- A ban that is added belongs to the record of its source: it begins
the record when the source had none, and else goes behind the others. -/
theorem Record.next_add (source : Address) (number : Nat) (r : Roll)
    (b : Ban) (past : Record) :
    past.next source number r (.add b)
      = if b.source = source then
          if (r.get? source).isSome then
            { past with bans := past.bans ++ [b] }
          else { entered := number, bans := [b] }
        else past := by
  have henters : r.enters (.add b) source
      = (!(r.get? source).isSome && decide (b.source = source)) := by
    show ((r.get? source).isNone && ((r.add b).2.get? source).isSome) = _
    rw [isSome_get?_add, ← Option.not_isSome]
    cases (r.get? source).isSome <;> simp
  unfold Record.next
  rw [henters]
  by_cases hb : b.source = source
  · cases (r.get? source).isSome <;> simp [hb, Step.added?]
  · simp [hb, Step.added?]

/-- A step that adds nothing leaves all records alone. -/
theorem Record.next_keep {r : Roll} (hr : r.Unique) {s : Step}
    (hs : s.added? = none) (source : Address) (number : Nat)
    (past : Record) : past.next source number r s = past := by
  obtain ⟨p, hp⟩ := step_eq_keep hr hs
  have henters : r.enters s source = false := by
    unfold enters
    rw [hp, get?_keep hr]
    cases r.get? source <;> simp
  unfold Record.next
  simp [henters, hs]

namespace Accounts

variable {all : List Ban} {number : Nat} {r : Roll}
  {past : Address → Record}

/-- The bans that stay are as they were. -/
theorem keep (ha : Accounts all number r past) (p : Ban → Bool) :
    Accounts all (number + 1) (r.keep p) past where
  known := ha.known
  joins e he := ha.joins e (List.mem_of_mem_filter he)
  fits e he := ha.fits e (List.mem_of_mem_filter he)
  ordered := ha.ordered.filter p
  entered_lt e he :=
    Nat.lt_succ_of_lt (ha.entered_lt e (List.mem_of_mem_filter he))

/-- A ban of a source that has none is entered behind the others. -/
theorem enter (ha : Accounts all number r past) {b : Ban} (hb : b ∈ all)
    (hfits : b.Fits) (habsent : r.get? b.source = none) :
    Accounts all (number + 1) (r.add b).2
      fun source => (past source).next source number r (.add b) := by
  have hnew : ∀ source, (past source).next source number r (.add b)
      = if b.source = source then { entered := number, bans := [b] }
        else past source := by
    intro source
    rw [Record.next_add]
    split
    case isTrue hs => rw [← hs, habsent]; rfl
    case isFalse => rfl
  have hother : ∀ e ∈ r.bans, ¬ b.source = e.source := by
    intro e he heq
    simpa [heq] using List.find?_eq_none.1 habsent e he
  simp only [hnew]
  rw [add_of_absent habsent]
  have hcases : ∀ {P : Ban → Prop}, (∀ e ∈ r.bans, P e) → P b →
      ∀ e ∈ r.bans ++ [b], P e := by
    intro P hold hlast e he
    rcases List.mem_append.1 he with he | he
    · exact hold e he
    · exact List.mem_singleton.1 he ▸ hlast
  exact {
    known := by
      intro source c hc
      split at hc
      · exact List.mem_singleton.1 hc ▸ hb
      · exact ha.known source c hc
    joins := hcases
      (fun e he => by rw [if_neg (hother e he)]; exact ha.joins e he)
      (by rw [if_pos rfl]; exact joins_single b)
    fits := hcases ha.fits hfits
    ordered := by
      refine List.pairwise_append.2
        ⟨ha.ordered.imp_of_mem fun he hf hlt => ?_,
          List.pairwise_singleton .., fun e he f hf => ?_⟩
      · rw [if_neg (hother _ he), if_neg (hother _ hf)]
        exact hlt
      · rw [List.mem_singleton.1 hf, if_neg (hother e he), if_pos rfl]
        exact ha.entered_lt e he
    entered_lt := hcases
      (fun e he => by
        rw [if_neg (hother e he)]
        exact Nat.lt_succ_of_lt (ha.entered_lt e he))
      (by rw [if_pos rfl]; exact Nat.lt_succ_self number) }

/-- How the ban of a source answers to another one. -/
theorem extend_of_get? (htold : Told all) (ha : Accounts all number r past)
    {b old : Ban} (hb : b ∈ all) (hget : r.get? b.source = some old) :
    (extend old b).1.ends = max old.ends b.ends
      ∧ (extend old b).1.Fits
      ∧ (extend old b).2
        = if old.ends < b.ends then .prolonged else .alreadyBanned := by
  have hold : old ∈ r.bans := List.mem_of_find?_eq_some hget
  refine extend_spec (ha.fits old hold) (htold.fits b hb) ?_
  obtain ⟨c, hc, hsource, hstart⟩ := (ha.joins old hold).exists_start
  rw [← hstart]
  exact htold.span c (ha.known _ c hc) b hb
    (hsource.trans (source_of_get? hget))

/-- A ban of a source that has one extends it in its place. -/
theorem prolong (htold : Told all) (ha : Accounts all number r past)
    {b old : Ban} (hb : b ∈ all) (hget : r.get? b.source = some old) :
    Accounts all (number + 1) (r.add b).2
      fun source => (past source).next source number r (.add b) := by
  have hold : old ∈ r.bans := List.mem_of_find?_eq_some hget
  have hsource : old.source = b.source := source_of_get? hget
  obtain ⟨hends, hfits, -⟩ := ha.extend_of_get? htold hb hget
  have hnew : ∀ source, (past source).next source number r (.add b)
      = if b.source = source then
          { past source with bans := (past source).bans ++ [b] }
        else past source := by
    intro source
    rw [Record.next_add]
    split
    case isTrue hs => rw [← hs, hget]; rfl
    case isFalse => rfl
  have hentered : ∀ source,
      ((past source).next source number r (.add b)).entered
        = (past source).entered := by
    intro source
    rw [hnew]
    split <;> rfl
  have hbans : (r.add b).2.bans = r.bans.map fun e =>
      if e.source = b.source then (extend e b).1 else e := by
    show (setIn b r.bans).1 = _
    rw [setIn_of_mem ha.unique hold hsource]
  have hone : ∀ e ∈ r.bans, e.source = b.source → e = old := by
    intro e he heq
    have hmem : e ∈ r.bans.filter (·.source == b.source) :=
      List.mem_filter.2 ⟨he, by simpa using heq⟩
    rw [bans_of_source ha.unique, hget] at hmem
    exact List.mem_singleton.1 hmem
  have hkeep : ∀ e, (if e.source = b.source then (extend e b).1
      else e).source = e.source := by
    intro e
    split
    · exact extend_map Ban.source (fun _ _ => rfl) e b
    · rfl
  have heach : ∀ {P : Ban → Prop},
      (∀ e ∈ r.bans, ¬ e.source = b.source → P e) → P (extend old b).1 →
      ∀ e ∈ (r.add b).2.bans, P e := by
    intro P hothers hlonger e he
    rw [hbans] at he
    obtain ⟨f, hf, rfl⟩ := List.mem_map.1 he
    split
    case isTrue hs => exact hone f hf hs ▸ hlonger
    case isFalse hs => exact hothers f hf hs
  have hlonger : (extend old b).1.source = b.source :=
    (extend_map Ban.source (fun _ _ => rfl) old b).trans hsource
  exact {
    known := by
      intro source c hc
      rw [hnew] at hc
      split at hc
      · rcases List.mem_append.1 hc with hc | hc
        · exact ha.known source c hc
        · exact List.mem_singleton.1 hc ▸ hb
      · exact ha.known source c hc
    joins := heach
      (fun e he hs => by
        rw [hnew, if_neg (Ne.symm hs)]
        exact ha.joins e he)
      (by
        rw [hnew, hlonger, if_pos rfl, ← hsource]
        exact (ha.joins old hold).extend hsource hends)
    fits := heach (fun e he _ => ha.fits e he) hfits
    ordered := by
      simp only [hentered]
      rw [hbans, List.pairwise_map]
      refine ha.ordered.imp fun hlt => ?_
      rw [hkeep, hkeep]
      exact hlt
    entered_lt := by
      simp only [hentered]
      refine heach (fun e he _ => Nat.lt_succ_of_lt (ha.entered_lt e he)) ?_
      rw [hlonger, ← hsource]
      exact Nat.lt_succ_of_lt (ha.entered_lt old hold) }

/-- Every step keeps the account. -/
theorem step (htold : Told all) (ha : Accounts all number r past)
    (s : Step) (hs : ∀ b, s.added? = some b → b ∈ all) :
    Accounts all (number + 1) (r.step s)
      fun source => (past source).next source number r s := by
  cases hadded : s.added? with
  | none =>
      obtain ⟨p, hp⟩ := step_eq_keep ha.unique hadded
      simp only [Record.next_keep ha.unique hadded, hp]
      exact ha.keep p
  | some b =>
      obtain rfl : s = .add b := by
        cases s with
        | add c => exact congrArg Step.add (Option.some.inj hadded)
        | expire now => cases hadded
        | remove source => cases hadded
        | flush => cases hadded
      have hb := hs b rfl
      cases hget : r.get? b.source with
      | none => exact ha.enter hb (htold.fits b hb) hget
      | some old => exact ha.prolong htold hb hget

/-- Every run keeps the account. -/
theorem run (htold : Told all) (ha : Accounts all number r past)
    (steps : List Step) (hsteps : ∀ b ∈ steps.filterMap Step.added?, b ∈ all) :
    Accounts all (number + steps.length) (r.run steps)
      fun source => recordFrom source (past source) number r steps := by
  induction steps generalizing number r past with
  | nil => exact ha
  | cons s rest ih =>
      have hrest := ih (ha.step htold s fun b hb =>
        hsteps b (List.mem_filterMap.2 ⟨s, List.mem_cons_self, hb⟩))
        fun b hb => hsteps b (by
          rw [List.filterMap_cons]
          split
          · exact hb
          · exact List.mem_cons_of_mem _ hb)
      rw [List.length_cons, Nat.add_comm rest.length, ← Nat.add_assoc]
      exact hrest

end Accounts

-- ============================================================ the law

/-- The bans that were added make their effects, and those of them that
are new are counted. -/
theorem total_run (r : Roll) (steps : List Step) :
    (r.run steps).total
      = r.total + (r.effects steps).count .banned := by
  induction steps generalizing r with
  | nil => rfl
  | cons s rest ih =>
      have hrun : r.run (s :: rest) = (r.step s).run rest := rfl
      rw [hrun, ih]
      cases s with
      | add b =>
          have htotal : (r.add b).2.total
              = r.total + [(r.add b).1].count .banned := by
            show (if (setIn b r.bans).2 = .banned then r.total + 1
              else r.total) = r.total + [(setIn b r.bans).2].count .banned
            cases (setIn b r.bans).2 <;> rfl
          show (r.add b).2.total + (effects (r.add b).2 rest).count .banned
            = r.total + ([(r.add b).1] ++ effects (r.add b).2 rest).count
                .banned
          rw [htotal, List.count_append, Nat.add_assoc]
      | expire now => rfl
      | remove source =>
          have htotal : (r.step (.remove source)).total = r.total := by
            simp only [step, remove]
            cases r.get? source <;> rfl
          rw [htotal]
          rfl
      | flush => rfl

/-- The effect of a ban that is added, told from the bans that were added
for its source before. -/
theorem Accounts.effect {all : List Ban} {number : Nat} {r : Roll}
    {past : Address → Record} (htold : Told all)
    (ha : Accounts all number r past) {b : Ban} (hb : b ∈ all) :
    (r.add b).1
      = if b.source ∈ r.sources then
          if latestEnd (past b.source).bans
              < latestEnd ((past b.source).bans ++ [b])
          then .prolonged else .alreadyBanned
        else .banned := by
  cases hget : r.get? b.source with
  | none =>
      have habsent : b.source ∉ r.sources := by
        rw [← isSome_get?_iff, hget]
        exact Bool.false_ne_true
      rw [add_of_absent hget, if_neg habsent]
  | some old =>
      have hpresent : b.source ∈ r.sources := by
        rw [← isSome_get?_iff, hget]
        rfl
      have hold : old ∈ r.bans := List.mem_of_find?_eq_some hget
      have hsource : old.source = b.source := source_of_get? hget
      obtain ⟨-, -, heffect⟩ := ha.extend_of_get? htold hb hget
      have hlatest := (ha.joins old hold).finish
      rw [hsource] at hlatest
      have hset : (r.add b).1 = (extend old b).2 := by
        show (setIn b r.bans).2 = _
        rw [setIn_of_mem ha.unique hold hsource]
      rw [hset, heffect, if_pos hpresent, latestEnd_concat, hlatest]
      simp only [lt_max_iff, lt_self_iff_false, false_or,
        WithBot.coe_lt_coe]

/-- The roll joins all that was added. Whatever is done with a roll that
began without bans, as long as the times can be told: its sources are
distinct and in the order in which they were entered; each ban is the
first of those that were added for its source since it was entered, up to
the latest of their ends, and its own times can be told. Adding a ban
enters its source exactly when that was absent, and else prolongs its ban
exactly when the latest end moves; the total counts what was entered.
Expiry takes away those bans whose end is not behind the time, and leaves
the others, both in order. -/
theorem roll_joins_what_was_added (banTime : Int) (steps : List Step)
    (htold : Told (steps.filterMap Step.added?)) :
    let start : Roll := { banTime }
    let r := start.run steps
    let past := fun source => record source start steps
    r.sources.Nodup
      ∧ (r.bans.Pairwise fun e f =>
          (past e.source).entered < (past f.source).entered)
      ∧ (∀ e ∈ r.bans, e.Joins (past e.source).bans ∧ e.Fits)
      ∧ (∀ b, Told (steps.filterMap Step.added? ++ [b]) →
          ((r.add b).1 = .banned ↔ b.source ∉ r.sources)
          ∧ ((r.add b).1 = .prolonged ↔ b.source ∈ r.sources
            ∧ latestEnd (past b.source).bans
              < latestEnd ((past b.source).bans ++ [b]))
          ∧ ((r.add b).1 = .alreadyBanned ↔ b.source ∈ r.sources
            ∧ ¬ latestEnd (past b.source).bans
              < latestEnd ((past b.source).bans ++ [b])))
      ∧ r.total = (start.effects steps).count .banned
      ∧ ∀ now : Int,
          (r.expire now).1
            = r.bans.filter (fun e => e.ends ≤ .time now)
          ∧ (r.expire now).2.bans
            = r.bans.filter (fun e => ¬ e.ends ≤ .time now) := by
  intro start r past
  have haccounts : ∀ all, Told all →
      (∀ b ∈ steps.filterMap Step.added?, b ∈ all) →
      Accounts all (0 + steps.length) r past := by
    intro all hall hsteps
    have hstart : Accounts all 0 start fun _ => {} :=
      ⟨nofun, nofun, nofun, List.Pairwise.nil, nofun⟩
    exact hstart.run hall steps hsteps
  have ha := haccounts _ htold fun b hb => hb
  refine ⟨ha.unique, ha.ordered, fun e he => ⟨ha.joins e he, ha.fits e he⟩,
    fun b hb => ?_, ?_, fun now => ?_⟩
  · have heffect := (haccounts _ hb fun c hc =>
      List.mem_append_left _ hc).effect hb (b := b) (by simp)
    rw [heffect]
    by_cases hmem : b.source ∈ r.sources
    · by_cases hlt : latestEnd (past b.source).bans
          < latestEnd ((past b.source).bans ++ [b]) <;> simp [hmem, hlt]
    · simp [hmem]
  · rw [total_run, Nat.zero_add]
  · refine ⟨List.filter_congr fun e he => ?_,
      List.filter_congr fun e he => ?_⟩
    · rw [Bool.eq_iff_iff, (ha.fits e he).isExpired_iff]
      simp
    · rw [Bool.eq_iff_iff, Bool.not_eq_true', ← Bool.not_eq_true,
        (ha.fits e he).isExpired_iff]
      simp

/-- A ban of one host. -/
def oneBan (start duration : Int) : Ban :=
  { source := Net.Address.parse "1.1.1.1", start, duration }

/-- A ban of another host, for ever. -/
def endlessBan : Ban :=
  { source := Net.Address.parse "2001:db8::1", start := 1000, duration := -1 }

/-- A ban that outlives its first end because it was prolonged, is taken
away, and is entered again behind the other one and prolonged again. -/
def reentered : List Step :=
  [.add (oneBan 1000 600), .add endlessBan, .add (oneBan 1100 3600),
    .expire 1700, .remove (Net.Address.parse "1.1.1.1"),
    .add (oneBan 1800 60), .add (oneBan 1810 600), .add (oneBan 1820 5)]

/-- The ban that was entered again knows nothing of the one before. -/
theorem reentered_ban_joins_later_bans :
    Told (reentered.filterMap Step.added?)
      ∧ (run { banTime := 600 } reentered).bans
        = [endlessBan, oneBan 1800 610]
      ∧ (oneBan 1800 610).Joins
          [oneBan 1800 60, oneBan 1810 600, oneBan 1820 5]
      ∧ (run { banTime := 600 } reentered).total = 3 := by
  have htold : Told (reentered.filterMap Step.added?) := by
    decide +kernel
  have hbans : (run { banTime := 600 } reentered).bans
      = [endlessBan, oneBan 1800 610] := by
    decide +kernel
  have hrecord : (record (oneBan 1800 610).source { banTime := 600 }
      reentered).bans
      = [oneBan 1800 60, oneBan 1810 600, oneBan 1820 5] := by
    decide +kernel
  obtain ⟨-, -, hjoins, -, htotal, -⟩ :=
    roll_joins_what_was_added 600 reentered htold
  refine ⟨htold, hbans, ?_, ?_⟩
  · have h := (hjoins (oneBan 1800 610) (by rw [hbans]; simp)).1
    rw [hrecord] at h
    exact h
  · rw [htotal]
    decide +kernel

end Roll

end Gatewatch.Ban
