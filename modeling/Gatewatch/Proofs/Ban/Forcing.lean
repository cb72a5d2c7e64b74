/-
A ban that is asked for by hand.

# Through the window

The ban takes the way of all others: attempts enough are counted for the
source at once. Whether they begin an entry, join the window of one or
begin its next, the entry has at least as many attempts as were counted
just now and was last seen no earlier (`Table.due_of_enough`). As no
source has two entries (`Reached.unique`) it is handed out once.

# Into the roll

The ban of what was handed out ends no earlier than if it was set now.
If the source is banned already, that ban is extended, which moves its
end to the later one (`Lasts.extend`); otherwise it is new, and stays
unless every action fails (`Roster.lasts_ban`).
-/
import Gatewatch.Proofs.Ban.Rollback
import Gatewatch.Proofs.Filter.Passing
import Gatewatch.Proofs.Offence.Draining
import Gatewatch.Proofs.Offence.Sparing

namespace Gatewatch

open Net (Address)
open Offence (Table Entry)

-- ========================================================== the window

/-- Attempts enough that are counted for a source at once make it due,
whatever the table has of it. -/
theorem Offence.Table.due_of_enough {t : Table} (ht : t.Unique)
    (hmax : t.maxRetry ≤ Offence.maxAttempts) {o : Offence}
    (ho : t.maxRetry ≤ o.weight) :
    ∃ e, (t.add o).entriesOf o.source = [e]
      ∧ (t.add o).isDue e = true ∧ o.time ≤ e.lastSeen := by
  have hcount : ∀ e : Entry, (t.add o).isDue (e.count o) = true
      ∧ o.time ≤ (e.count o).lastSeen := by
    intro e
    refine ⟨decide_eq_true ?_, Int.le_max_right ..⟩
    show t.maxRetry ≤ min (e.attempts + o.weight) Offence.maxAttempts
    omega
  have hentries : t.entriesOf o.source = (t.get? o.source).toList :=
    Keyed.filter_eq_toList ht o.source
  cases hget : t.get? o.source with
  | none =>
      rw [hget] at hentries
      exact ⟨_, Table.entriesOf_add_of_nil rfl hentries, hcount _⟩
  | some e =>
      rw [hget] at hentries
      exact ⟨_, Table.entriesOf_add_of_single rfl hentries, hcount _⟩

namespace Filter

variable {f : Filter}

/-- A filter that may come up. It is new, or something was done with one:
a line was read, a ban was asked for, an offence was handed out or taken
back, stale entries were forgotten, or anything was set but what its
table has counted. -/
inductive Reached : Filter → Prop
  | new {f : Filter} (hnone : f.table.entries = [])
      (hmax : f.table.maxRetry ≤ Offence.maxAttempts) : Reached f
  | set {f g : Filter} (h : Reached f)
      (hsame : g.table.entries = f.table.entries)
      (hmax : g.table.maxRetry ≤ Offence.maxAttempts) : Reached g
  | line {f : Filter} (h : Reached f) (text : String) {σ : Type} [Shell σ]
      (host : Host σ) : Reached ((f.addLine text).result host).1
  | banned {f g : Filter} (h : Reached f) {a : Address} {now : Int}
      (hban : f.addBanned a now = .ok g) : Reached g
  | handed {f : Filter} (h : Reached f) {o : Offence} {t : Table}
      (hnext : f.table.next = some (o, t)) : Reached { f with table := t }
  | restored {f : Filter} (h : Reached f) (o : Offence) :
      Reached { f with table := Action.Roster.restore f.table o }
  | tidied {f : Filter} (h : Reached f) (now : Int) :
      Reached (f.tidy now).value

/-- No source has two entries in the table, and a ban takes no more
attempts than an entry counts. -/
structure Sound (f : Filter) : Prop where
  unique : f.table.Unique
  maxRetry_le : f.table.maxRetry ≤ Offence.maxAttempts

namespace Sound

/-- Counting an offence. -/
theorem add (h : f.Sound) (o : Offence) :
    Sound { f with table := f.table.add o } :=
  ⟨h.unique.add o, h.maxRetry_le⟩

/-- Counting the offences of a line. -/
theorem countAll {σ : Type} [Shell σ] (h : f.Sound) (horizon : Int)
    (offences : List Offence) (host : Host σ) :
    Sound ((f.countAll horizon offences).result host).1 := by
  induction offences generalizing f host with
  | nil => exact h
  | cons o rest ih =>
      unfold Filter.countAll
      split
      case isTrue => exact ih h _
      case isFalse =>
        rw [Work.result_bind]
        split
        case isTrue => exact ih h _
        case isFalse => exact ih (h.add o) _

/-- Reading a line. -/
theorem addLine {σ : Type} [Shell σ] (h : f.Sound) (text : String)
    (host : Host σ) : Sound ((f.addLine text).result host).1 := by
  obtain ⟨detector, buffer, hframe⟩ :=
    f.processLine_frame text host.now host.names
  refine countAll ?_ _ _ _
  show Sound (f.processLine text host.now host.names).value.1
  rw [hframe]
  exact ⟨h.unique, h.maxRetry_le⟩

end Sound

/-- Every filter that may come up has such a table. -/
theorem Reached.sound (h : f.Reached) : f.Sound := by
  induction h with
  | new hnone hmax =>
      refine ⟨?_, hmax⟩
      unfold Table.Unique
      rw [hnone]
      exact List.nodup_nil
  | set _ hsame hmax ih =>
      refine ⟨?_, hmax⟩
      unfold Table.Unique
      rw [hsame]
      exact ih.unique
  | line _ text host ih => exact ih.addLine text host
  | @banned f g _ a now hban ih =>
      unfold addBanned at hban
      split at hban
      · cases hban
        exact ih.add _
      · cases hban
  | @handed f _ o t hnext ih =>
      have hstep : f.table.step .next = t := by
        unfold Table.step
        rw [hnext]
      obtain ⟨-, -, -, -, ht⟩ := Table.next_eq_some hnext
      exact ⟨hstep ▸ ih.unique.step .next, by rw [ht]; exact ih.maxRetry_le⟩
  | restored _ o ih =>
      rw [Action.Roster.restore_eq]
      split
      · exact ih.add _
      · exact ih
  | tidied _ now ih =>
      unfold tidy
      exact ⟨ih.unique.step (.cleanup now), ih.maxRetry_le⟩

/-- The attempts of a ban by hand are handed out as one offence, which is
due and not older than the ban. -/
theorem Reached.drain_addBanned (h : f.Reached) {a : Address}
    (hvalid : a.isValid = true) (now : Int) :
    ∃ g o, f.addBanned a now = .ok g
      ∧ g.drain.value.2.filter (·.source == a) = [o]
      ∧ g.table.maxRetry ≤ o.attempts ∧ now ≤ o.time := by
  obtain ⟨e, hentries, hdue, htime⟩ := Table.due_of_enough
    (o := { source := a, time := now, attempts := max f.table.maxRetry 1 })
    h.sound.unique h.sound.maxRetry_le
    (Nat.le_trans (Nat.le_max_left ..) (Nat.le_max_right ..))
  refine ⟨_, e.toOffence, if_pos hvalid,
    (Table.drain_of_due hentries hdue).1, of_decide_eq_true hdue, htime⟩

end Filter

-- ============================================================ the roll

namespace Ban

/-- A ban that has no end before a time, as far as times can be told. -/
def Lasts (b : Ban) (time : Int) : Prop :=
  ∀ finish, b.finish? = some finish → min time latest ≤ finish

/-- A ban with an end has a duration, and ends behind it. -/
theorem finish?_eq_some {b : Ban} {finish : Int}
    (h : b.finish? = some finish) :
    0 ≤ b.duration ∧ finish = min (b.start + b.duration) latest := by
  unfold finish? at h
  split at h
  case isTrue => cases h
  case isFalse hpermanent =>
    refine ⟨?_, (Option.some.inj h).symm⟩
    simpa [isPermanent] using hpermanent

/-- A ban lasts from its start for its duration. -/
theorem lasts_duration (b : Ban) : b.Lasts (b.start + b.duration) := by
  intro finish hfinish
  exact Int.le_of_eq (finish?_eq_some hfinish).2.symm

/-- What lasts to a time lasts to an earlier one. -/
theorem Lasts.mono {b : Ban} {time time' : Int} (h : b.Lasts time')
    (hle : time ≤ time') : b.Lasts time := by
  intro finish hfinish
  have := h finish hfinish
  omega

/-- A way from a word to a later one is told as it is, or as a negative
number. -/
theorem wrap_of_le {start finish : Int} (hstart : Word.Fits 64 start)
    (hle : start ≤ finish) (hfinish : finish ≤ latest) :
    Word.wrap 64 (finish - start) = finish - start
      ∨ Word.wrap 64 (finish - start) < 0 := by
  have hlatest : latest + 1 = (Word.size 63 : Int) := by decide
  have hsize : (Word.size 64 : Int) = 2 * (Word.size 63 : Int) := by decide
  have hlow : -(Word.size 63 : Int) ≤ start := hstart.1
  by_cases hfits : finish - start < Word.size 63
  · left
    exact Word.wrap_of_fits (by decide)
      ⟨show -(Word.size 63 : Int) ≤ _ by omega, hfits⟩
  · -- twice the room of a word is not left behind
    right
    have hcut : (finish - start - Word.size 64).bmod (Word.size 64)
        = finish - start - Word.size 64 :=
      Int.bmod_eq_of_le (by omega) (by omega)
    rw [Int.sub_bmod_right] at hcut
    show (finish - start).bmod (Word.size 64) < 0
    omega

/-- A ban that is extended lasts as long as the other one. -/
theorem Lasts.extend {old new : Ban} {time : Int} (h : new.Lasts time)
    (hstart : Word.Fits 64 old.start) : (extend old new).1.Lasts time := by
  unfold Ban.extend
  split
  case h_1 hold =>
    intro finish hfinish
    rw [hold] at hfinish
    cases hfinish
  case h_2 =>
    intro finish hfinish
    cases hfinish
  case h_3 oldEnd newEnd hold hnew =>
    have hlast : min time latest ≤ newEnd := h newEnd hnew
    split
    case isTrue hlater =>
      -- the new duration is the way from the start to the later end, or it
      -- is too long to be told and means for ever
      obtain ⟨hduration, hend⟩ := finish?_eq_some hold
      obtain ⟨-, hnewEnd⟩ := finish?_eq_some hnew
      have hbefore : old.start ≤ newEnd := by
        have hword : old.start ≤ latest := by
          have hlatest : latest + 1 = (Word.size 63 : Int) := by decide
          have hhigh : old.start < Word.size 63 := hstart.2
          omega
        omega
      intro finish hfinish
      obtain ⟨hlong, rfl⟩ := finish?_eq_some hfinish
      dsimp only at hlong ⊢
      obtain hway | hway := wrap_of_le hstart hbefore (by omega)
      · rw [hway]
        omega
      · exact absurd hlong (Int.not_le.2 hway)
    case isFalse hearlier =>
      intro finish hfinish
      rw [hold] at hfinish
      cases hfinish
      omega

end Ban

namespace Action

variable {σ : Type} [Shell σ] {w : Ward} {o : Offence} {h : Host σ}

/-- A batch that failed tells that every action fails. -/
theorem Ward.fails_of_failed {x : Batch}
    (hx : (((Call.ban o).watch w).result h).2 = [x])
    (hlength : x.results.length = w.roster.actions.length)
    (hfailed : x.failed = true) : w.Fails o h := by
  unfold Batch.failed at hfailed
  rw [Bool.and_eq_true, Bool.not_eq_true', List.isEmpty_eq_false_iff,
    List.all_eq_true] at hfailed
  refine ⟨fun hnil => hfailed.1 ?_, ?_⟩
  · rw [← List.length_eq_zero_iff, hlength, hnil]
    rfl
  · rw [hx]
    rintro y hy done hdone
    rw [List.mem_singleton.1 hy] at hdone
    simpa using hfailed.2 done hdone

/-- After the ban of an offence its source is banned, at least from the
time of the offence for the time that bans last, unless it was not banned
before and every action fails. -/
theorem Roster.lasts_ban (w : Ward) (o : Offence) (h : Host σ)
    (hstarts : ∀ b ∈ w.roster.roll.bans, Word.Fits 64 b.start)
    (hcarried : w.roster.roll.get? o.source = none → ¬ w.Fails o h) :
    ∃ b, (((Call.ban o).run w).result h).roster.roll.get? o.source = some b
      ∧ b.Lasts (o.time + w.roster.roll.banTime) := by
  have hset : ((w.roster.ban w.table o).result h).2.1
      = (w.roster.enter o).2.2 := by
    cases habsent : w.roster.roll.get? o.source with
    | none =>
        obtain ⟨x, hx, hlength, hban⟩ := ban_of_absent habsent h
        have hdone : x.failed = false := by
          rw [Bool.eq_false_iff]
          exact fun hfailed => hcarried habsent
            (Ward.fails_of_failed hx hlength hfailed)
        rw [hban, hdone]
        rfl
    | some old =>
        have heffect := (Ban.Roll.add_of_present
          (b := w.roster.roll.banOf o o.time) habsent).1
        unfold ban
        dsimp only
        split
        case h_1 he => exact absurd he heffect
        case h_2 => rfl
        case h_3 => rfl
  change ∃ b, ((w.roster.ban w.table o).result h).2.1.roll.get? o.source
    = some b ∧ _
  rw [hset]
  have hget := w.roster.roll.get?_add_self (w.roster.roll.banOf o o.time)
  refine ⟨_, hget, ?_⟩
  have hnew : (w.roster.roll.banOf o o.time).Lasts
      (o.time + w.roster.roll.banTime) := Ban.lasts_duration _
  split
  case h_1 old hold =>
    exact hnew.extend (hstarts old (List.mem_of_find?_eq_some hold))
  case h_2 => exact hnew

end Action

namespace Filter

open Gatewatch.Action (Ward Call)

/-- Whatever was done with a filter, a ban of a valid source that is asked
for by hand is counted, and when everything that is due is handed out
then, exactly one offence of the source is: with attempts enough for a
ban, and not before the time of asking. When its ban is carried out, in
whatever surroundings and whoever is banned already, the source is banned
afterwards, for ever or at least for the time that bans last from the time
of asking on, as far as times can be told; unless it was not banned before
and every action fails. The starts of the bans in force are words. -/
theorem manual_ban_takes_hold {f : Filter} (hf : f.Reached) {a : Address}
    (hvalid : a.isValid = true) (now : Int) :
    ∃ g o, f.addBanned a now = .ok g
      ∧ g.drain.value.2.filter (·.source == a) = [o]
      ∧ g.table.maxRetry ≤ o.attempts ∧ now ≤ o.time
      ∧ ∀ {σ : Type} [Shell σ] (w : Ward) (h : Host σ),
          (∀ b ∈ w.roster.roll.bans, Word.Fits 64 b.start) →
          (w.roster.roll.get? a = none → ¬ w.Fails o h) →
          ∃ b, (((Call.ban o).run w).result h).roster.roll.get? a = some b
            ∧ (b.isPermanent = true ∨ ∃ finish, b.finish? = some finish
              ∧ min (now + w.roster.roll.banTime) Ban.latest ≤ finish) := by
  obtain ⟨g, o, hadd, hout, hattempts, htime⟩ :=
    hf.drain_addBanned hvalid now
  refine ⟨g, o, hadd, hout, hattempts, htime, ?_⟩
  have hsource : o.source = a := by
    have hmem : o ∈ g.drain.value.2.filter (·.source == a) :=
      hout ▸ List.mem_singleton_self o
    simpa using (List.mem_filter.1 hmem).2
  intro σ _ w h hstarts hcarried
  rw [← hsource] at hcarried ⊢
  obtain ⟨b, hb, hlasts⟩ := Action.Roster.lasts_ban w o h hstarts hcarried
  refine ⟨b, hb, ?_⟩
  cases hfinish : b.finish? with
  | none =>
      left
      unfold Ban.finish? at hfinish
      split at hfinish
      case isTrue hpermanent => exact hpermanent
      case isFalse => cases hfinish
  | some finish =>
      right
      refine ⟨finish, rfl, ?_⟩
      exact hlasts.mono (Int.add_le_add_right htime _) finish hfinish

/-- A filter that had the attempts of a source taken back, long ago. -/
def tried : Filter where
  jail := "ssh"
  detector := .empty 0
  watcher := .polling []
  table := Action.Roster.restore {} { Action.handedOut with time := 100 }

theorem tried_reached : tried.Reached :=
  .restored (f := { tried with table := {} }) (.new rfl (by decide)) _

/-- The attempts that are counted at once are handed out. -/
theorem tried_drain (g : Filter)
    (hg : tried.addBanned Action.handedOut.source 1000 = .ok g) :
    g.drain.value.2.filter (·.source == Action.handedOut.source)
      = [Action.handedOut] := by
  have hvalid : Action.handedOut.source.isValid = true := by
    decide +kernel
  obtain rfl := Except.ok.inj ((if_pos hvalid).symm.trans hg)
  decide +kernel

/-- A shell in which every command succeeds. -/
def obedient : Host Script :=
  { Action.broken with
    shell := { rules := [⟨"block", .ended (some 0) "" "" none, none⟩] } }

/-- What was counted of the source is too old to join. The ban that is
asked for at 1000 is handed out and carried out all the same, and lasts to
1600. -/
theorem manual_ban_of_stale_source :
    tried.Reached
      ∧ Action.handedOut.source.isValid = true
      ∧ ∃ g o, tried.addBanned Action.handedOut.source 1000 = .ok g
        ∧ g.drain.value.2.filter (·.source == Action.handedOut.source) = [o]
        ∧ (∀ b ∈ Action.guarded.roster.roll.bans, Word.Fits 64 b.start)
        ∧ ¬ Action.guarded.Fails o obedient
        ∧ ∃ b, (((Call.ban o).run Action.guarded).result
              obedient).roster.roll.get? Action.handedOut.source = some b
          ∧ (b.isPermanent = true ∨ ∃ finish, b.finish? = some finish
            ∧ 1600 ≤ finish) := by
  have hvalid : Action.handedOut.source.isValid = true := by
    decide +kernel
  have hstarts : ∀ b ∈ Action.guarded.roster.roll.bans,
      Word.Fits 64 b.start := by
    decide +kernel
  have hcarried : ¬ Action.guarded.Fails Action.handedOut obedient := by
    decide +kernel
  obtain ⟨g, o, hadd, hout, -, -, hlasts⟩ :=
    manual_ban_takes_hold tried_reached hvalid 1000
  obtain rfl : o = Action.handedOut :=
    (List.singleton_inj.1 ((tried_drain g hadd).symm.trans hout)).symm
  exact ⟨tried_reached, hvalid, g, _, hadd, hout, hstarts, hcarried,
    hlasts Action.guarded obedient hstarts fun _ => hcarried⟩

/-- A worker whose bans last as long as can be told. -/
def patient : Ward :=
  { Action.guarded with
    roster :=
      { Action.guarded.roster with
        roll := { Action.guarded.roster.roll with banTime := Ban.latest } } }

/-- A ban that would end behind the latest time that can be told ends at
that time, before its ban time is over. -/
theorem longest_ban_is_cut_short :
    tried.Reached
      ∧ Action.handedOut.source.isValid = true
      ∧ ∃ g, tried.addBanned Action.handedOut.source 1000 = .ok g
        ∧ g.drain.value.2.filter (·.source == Action.handedOut.source)
          = [Action.handedOut]
        ∧ 0 ≤ patient.roster.roll.banTime
        ∧ ¬ patient.Fails Action.handedOut obedient
        ∧ ∃ b, (((Call.ban Action.handedOut).run patient).result
              obedient).roster.roll.get? Action.handedOut.source = some b
          ∧ b.isPermanent = false
          ∧ ∃ finish, b.finish? = some finish
            ∧ finish < 1000 + patient.roster.roll.banTime := by
  have hvalid : Action.handedOut.source.isValid = true := by
    decide +kernel
  refine ⟨tried_reached, hvalid, _, if_pos hvalid,
    tried_drain _ (if_pos hvalid), by decide +kernel, by decide +kernel,
    .ofOffence Action.handedOut 1000 Ban.latest, by decide +kernel,
    by decide +kernel, Ban.latest, by decide +kernel, by decide +kernel⟩

end Filter

end Gatewatch
