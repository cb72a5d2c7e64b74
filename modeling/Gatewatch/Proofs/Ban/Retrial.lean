/-
A ban that failed is tried again with the next failure of its source, and
not before.

# What is kept

Of an offence whose ban failed the table takes back one attempt less than
a ban needs, at the time of the offence. The source has no entry then, so
this is its entry afterwards, or there is none where one attempt is
enough for a ban (`Awaits`).

# What may be done meanwhile

Anything that is no failure of the source (`Meanwhile`): other offences
may be counted and handed out, entries forgotten, bans set and lifted.
Nothing of it hands the entry out, as it is short of an attempt
(`Awaits.not_next`), and it is forgotten only when the table is cleaned
up behind the end of its window (`Awaits.of_spared`).

# Over and over

A failure within the window is the attempt that was missing
(`Awaits.due_of_add`). The entry is handed out with it, and then the
source has none and is not banned: just what was assumed before the ban
failed (`Ready`). So it is the same when that ban fails, too, however
often (`Ready.of_rounds`).
-/
import Gatewatch.Proofs.Ban.Rollback
import Gatewatch.Proofs.Offence.Sparing
import Mathlib.Logic.Relation

namespace Gatewatch.Action

open Net (Address)
open Offence (Table)
open Relation (ReflTransGen)

variable {a : Address} {clean : Int → Prop} {w w' : Ward} {t u : Table}

-- ========================================================== meanwhile

/-- A call that bans no offence of a source, which would be counted as a
failure of it if the ban failed. -/
def Call.Spares (a : Address) : Call → Prop
  | .ban o => o.source ≠ a
  | _ => True

/-- What may be done with a worker and its table meanwhile: anything that
adds no failure of a source, and cleans up only when it may. -/
inductive Meanwhile (a : Address) (clean : Int → Prop) (w : Ward) :
    Ward → Prop
  | refl : Meanwhile a clean w w
  | table {w' : Ward} (h : Meanwhile a clean w w') (s : Table.Step)
      (hs : s.Spares a clean) :
      Meanwhile a clean w { w' with table := w'.table.map (·.step s) }
  | call {w' : Ward} (h : Meanwhile a clean w w') (c : Call)
      (hc : c.Spares a) {σ : Type} [Shell σ] (host : Host σ) :
      Meanwhile a clean w ((c.run w').result host)

/-- A ban is entered, or it is taken back with the offence. -/
theorem Roster.ban_cases {σ : Type} [Shell σ] (r : Roster)
    (table : Option Table) (o : Offence) (h : Host σ) :
    ((r.ban table o).result h).2 = ((r.enter o).2.2, table)
      ∨ ((r.ban table o).result h).2
        = ((r.enter o).2.2.withdraw o.source, table.map (restore · o)) := by
  simp only [ban]
  split
  · simp only [Work.result_bind]
    split
    · exact .inl rfl
    · exact .inr rfl
  · exact .inl rfl
  · exact .inl rfl

/-- A call that bans another source leaves the entries of this one. -/
theorem Call.spared_run {σ : Type} [Shell σ] {c : Call} (hc : c.Spares a)
    (ht : w.table = some t) (h : Host σ) :
    ∃ u, ((c.run w).result h).table = some u ∧ t.Spared a clean u := by
  cases c with
  | ban o =>
      show ∃ u, ((w.roster.ban w.table o).result h).2.2 = some u ∧ _
      obtain hban | hban := w.roster.ban_cases w.table o h
      · rw [hban]
        exact ⟨t, ht, .refl t⟩
      · rw [hban, ht]
        refine ⟨Roster.restore t o, rfl, ?_⟩
        rw [Roster.restore_eq]
        split
        · exact .add hc
        · exact .refl t
  | expire now => exact ⟨t, ht, .refl t⟩
  | unban source =>
      refine ⟨t, ?_, .refl t⟩
      show ((w.roster.unban source >>= _ : Work σ Ward).result h).table = _
      rw [Work.result_bind]
      split <;> exact ht
  | flush => exact ⟨t, ht, .refl t⟩

/-- A source that is not banned is not banned by any other call than its
own ban. -/
theorem Call.get?_run_eq_none {σ : Type} [Shell σ] {c : Call}
    (hc : c.Spares a) (habsent : w.roster.roll.get? a = none)
    (h : Host σ) : ((c.run w).result h).roster.roll.get? a = none := by
  cases c with
  | ban o =>
      have ho : o.source ≠ a := hc
      have henter : (w.roster.enter o).2.2.roll.get? a = none := by
        rw [← Option.not_isSome_iff_eq_none]
        show ¬ ((w.roster.roll.add (w.roster.roll.banOf o o.time)).2.get?
          a).isSome = true
        rw [Ban.Roll.isSome_get?_add, habsent, Option.isSome_none,
          Bool.false_or, decide_eq_true_iff]
        exact ho
      show ((w.roster.ban w.table o).result h).2.1.roll.get? a = none
      obtain hban | hban := w.roster.ban_cases w.table o h
      · rw [hban]
        exact henter
      · rw [hban]
        unfold Roster.withdraw
        split
        case h_1 hremove =>
          exact Ban.Roll.get?_eq_none_of_sublist
            (Ban.Roll.sublist_of_remove hremove) henter
        case h_2 => exact henter
  | expire now =>
      exact Ban.Roll.get?_eq_none_of_sublist List.filter_sublist habsent
  | unban source =>
      show ((w.roster.unban source >>= _ : Work σ Ward).result
        h).roster.roll.get? a = none
      unfold Roster.unban
      cases hremove : w.roster.roll.remove source with
      | none => exact habsent
      | some found =>
          exact Ban.Roll.get?_eq_none_of_sublist
            (Ban.Roll.sublist_of_remove hremove) habsent
  | flush =>
      exact Ban.Roll.get?_eq_none_of_sublist (List.nil_sublist _) habsent

/-- What is left of a source meanwhile. -/
theorem Meanwhile.spared (hw : Meanwhile a clean w w')
    (ht : w.table = some t) :
    ∃ u, w'.table = some u ∧ t.Spared a clean u := by
  induction hw with
  | refl => exact ⟨t, ht, .refl t⟩
  | table _ s hs ih =>
      obtain ⟨u, hu, hspared⟩ := ih
      exact ⟨u.step s, by rw [hu]; rfl, hspared.trans (.step hs)⟩
  | call _ c hc host ih =>
      obtain ⟨u, hu, hspared⟩ := ih
      obtain ⟨v, hv, hmore⟩ := c.spared_run hc hu host
      exact ⟨v, hv, hspared.trans hmore⟩

/-- A source that is not banned is not banned meanwhile. -/
theorem Meanwhile.absent (hw : Meanwhile a clean w w')
    (habsent : w.roster.roll.get? a = none) :
    w'.roster.roll.get? a = none := by
  induction hw with
  | refl => exact habsent
  | table _ s hs ih => exact ih
  | call _ c hc host ih => exact c.get?_run_eq_none hc ih host

-- ================================================== one attempt short

variable {maxRetry : Nat} {window time : Int} {f g o : Offence}

/-- A table that asks for some attempts within a window, and has all but
one of them for a source: one entry that was seen at one time only, or
none if one attempt is enough. -/
structure Awaits (a : Address) (maxRetry : Nat) (window time : Int)
    (t : Table) : Prop where
  asks : t.maxRetry = maxRetry
  within : t.findTime = window
  short : (t.entriesOf a = [] ∧ maxRetry ≤ 1)
    ∨ ∃ e, t.entriesOf a = [e] ∧ e.attempts + 1 = maxRetry
      ∧ e.firstSeen = time ∧ e.lastSeen = time

/-- A time within a window of an offence, such that there is room for the
beginning of the window that ends at it. -/
structure Timely (window time now : Int) : Prop where
  within : now ≤ time + window
  told : Word.Fits 64 (now - window)

instance (window time now : Int) : Decidable (Timely window time now) :=
  decidable_of_iff (now ≤ time + window ∧ Word.Fits 64 (now - window))
    ⟨fun h => ⟨h.1, h.2⟩, fun h => ⟨h.within, h.told⟩⟩

/-- Such a window begins no later than the offence. -/
theorem Timely.horizon_le {now : Int} (h : Timely window time now) :
    Offence.horizon now window ≤ time := by
  rw [Offence.horizon_of_fits h.told]
  have := h.within
  omega

namespace Awaits

/-- A source that had no entry has all attempts but one after a ban of it
failed. -/
theorem of_restore (hmax : maxRetry ≤ Offence.maxAttempts)
    (hsource : f.source = a) (hretry : t.maxRetry = maxRetry)
    (hwindow : t.findTime = window) (hnone : t.get? a = none)
    (hf : maxRetry ≤ f.attempts) :
    Awaits a maxRetry window f.time (Roster.restore t f) := by
  have hempty : t.entriesOf a = [] := Table.get?_eq_none_iff.1 hnone
  have hkeep : min f.attempts (t.maxRetry - 1) = maxRetry - 1 := by
    rw [hretry]
    omega
  rw [Roster.restore_eq, hkeep]
  split
  case isTrue hpos =>
    refine ⟨hretry, hwindow, .inr ⟨_, Table.entriesOf_add_of_nil hsource
      hempty, ?_, rfl, Int.max_self _⟩⟩
    show min (0 + max 1 (maxRetry - 1)) Offence.maxAttempts + 1 = maxRetry
    omega
  case isFalse hpos => exact ⟨hretry, hwindow, .inl ⟨hempty, by omega⟩⟩

/-- None of the attempts is due. -/
theorem not_due (h : Awaits a maxRetry window time t) :
    ∀ e ∈ t.entriesOf a, t.isDue e = false := by
  intro e he
  obtain ⟨hempty, -⟩ | ⟨x, hx, hattempts, -, -⟩ := h.short
  · rw [hempty] at he
    cases he
  · rw [hx] at he
    obtain rfl := List.mem_singleton.1 he
    unfold Table.isDue
    rw [h.asks, decide_eq_false_iff_not]
    omega

/-- Nothing of the source is handed out. -/
theorem not_next (h : Awaits a maxRetry window time t)
    (hu : t.Spared a clean u) {v : Table} (hnext : u.next = some (o, v)) :
    o.source ≠ a := by
  rintro rfl
  obtain ⟨e, he, hdue, -, -⟩ := Table.next_eq_some hnext
  have hshort := h.not_due e (hu.subset e he)
  unfold Table.isDue at hdue hshort
  rw [hu.maxRetry] at hdue
  rw [hdue] at hshort
  cases hshort

/-- Everything is still there as long as no cleanup is behind the end of
the window. -/
theorem of_spared (h : Awaits a maxRetry window time t)
    (hu : t.Spared a (Timely window time) u) :
    Awaits a maxRetry window time u := by
  have hsame : u.entriesOf a = t.entriesOf a := by
    refine hu.same fun e he => ⟨h.not_due e he, fun now hnow => ?_⟩
    obtain ⟨hempty, -⟩ | ⟨x, hx, -, -, hlast⟩ := h.short
    · rw [hempty] at he
      cases he
    · rw [hx] at he
      obtain rfl := List.mem_singleton.1 he
      rw [h.within, hlast]
      exact hnow.horizon_le
  exact ⟨hu.maxRetry.trans h.asks, hu.findTime.trans h.within,
    hsame ▸ h.short⟩

/-- A failure within the window is the attempt that is missing. -/
theorem due_of_add (h : Awaits a maxRetry window time t)
    (hmax : maxRetry ≤ Offence.maxAttempts) (hsource : o.source = a)
    (htime : Timely window time o.time) :
    ∃ e, (t.add o).entriesOf a = [e] ∧ maxRetry ≤ e.attempts := by
  have hweight : 1 ≤ o.weight := Nat.le_max_left ..
  obtain ⟨hempty, hone⟩ | ⟨x, hx, hattempts, hfirst, -⟩ := h.short
  · refine ⟨_, Table.entriesOf_add_of_nil hsource hempty, ?_⟩
    show maxRetry ≤ min (0 + o.weight) Offence.maxAttempts
    omega
  · have hrenew : x.renew t.findTime o = x := by
      unfold Offence.Entry.renew
      rw [if_neg]
      rw [h.within, hfirst]
      exact Int.not_lt.2 htime.horizon_le
    refine ⟨_, Table.entriesOf_add_of_single hsource hx, ?_⟩
    rw [hrenew]
    show maxRetry ≤ min (x.attempts + o.weight) Offence.maxAttempts
    omega

end Awaits

-- ======================================================== over and over

/-- An offence of a source that was handed out, and a worker that neither
bans the source nor has an entry of it. -/
structure Ready (a : Address) (maxRetry : Nat) (window : Int) (w : Ward)
    (f : Offence) : Prop where
  source : f.source = a
  handed : ∃ u v : Table, u.maxRetry = maxRetry ∧ u.next = some (f, v)
  absent : w.roster.roll.get? a = none
  table : ∃ t, w.table = some t ∧ t.maxRetry = maxRetry
    ∧ t.findTime = window ∧ t.get? a = none

/-- A worker carries out the ban of an offence, and every action fails.
When a failure of the source comes, all that is due is handed out, and
among it another offence of the source. -/
inductive Round (a : Address) : Ward × Offence → Ward × Offence → Prop
  | mk {w before after : Ward} {f o g : Offence} {t : Table} {σ : Type}
      [Shell σ] {h : Host σ} (hfails : w.Fails f h)
      (hbefore : Meanwhile a (fun _ => True)
        (((Call.ban f).run w).result h) before)
      (htable : before.table = some t) (ho : o.source = a)
      (hg : g ∈ (t.add o).drain.1) (hsource : g.source = a)
      (hafter : Meanwhile a (fun _ => True)
        { before with table := some (t.add o).drain.2 } after) :
      Round a (w, f) (after, g)

namespace Ready

variable {σ : Type} [Shell σ] {h : Host σ}

/-- After the ban failed the source is still not banned, and the table
awaits its next failure. -/
theorem awaits (hready : Ready a maxRetry window w f)
    (hmax : maxRetry ≤ Offence.maxAttempts) (hfails : w.Fails f h) :
    (((Call.ban f).run w).result h).roster.roll.get? a = none
      ∧ ∃ t, (((Call.ban f).run w).result h).table = some t
        ∧ Awaits a maxRetry window f.time t := by
  obtain ⟨hsource, ⟨u, v, hu, hnext⟩, habsent, t, ht, hretry, hwindow,
    hnone⟩ := hready
  have hban := Roster.ban_of_fails (hsource ▸ habsent) hfails
  have hattempts : maxRetry ≤ f.attempts :=
    hu ▸ Table.le_attempts_of_next hnext
  have hroster : (((Call.ban f).run w).result h).roster
      = ((w.roster.ban w.table f).result h).2.1 := rfl
  have htable : (((Call.ban f).run w).result h).table
      = ((w.roster.ban w.table f).result h).2.2 := rfl
  rw [hroster, htable, hban, ht]
  exact ⟨habsent, _, rfl,
    .of_restore hmax hsource hretry hwindow hnone hattempts⟩

/-- The next round begins as this one did. -/
theorem of_round {x y : Ward × Offence}
    (hready : Ready a maxRetry window x.1 x.2) (hround : Round a x y)
    (hmax : maxRetry ≤ Offence.maxAttempts) :
    Ready a maxRetry window y.1 y.2 := by
  obtain @⟨w, before, after, f, o, g, t, σ, _, h, hfails, hbefore, htable, ho,
    hg, hsource, hafter⟩ := hround
  obtain ⟨habsent, t₀, ht₀, hawaits⟩ := hready.awaits hmax hfails
  obtain ⟨t', ht', hspared⟩ := hbefore.spared ht₀
  obtain rfl : t' = t := Option.some.inj (ht'.symm.trans htable)
  obtain ⟨⟨u, v, hu, hnext⟩, hleft⟩ := Table.of_mem_drain hg
  obtain ⟨hretry, hwindow⟩ := (t'.add o).settings_drain
  obtain ⟨t₁, ht₁, hmore⟩ := hafter.spared rfl
  have hasks : t'.maxRetry = maxRetry := hspared.maxRetry.trans hawaits.asks
  have hwithin : t'.findTime = window := hspared.findTime.trans hawaits.within
  have hempty : t₁.entriesOf a = [] := List.eq_nil_iff_forall_not_mem.2
    fun e he => by
      have hold := hmore.subset e he
      rw [← hsource, hleft] at hold
      cases hold
  exact
    { source := hsource
      handed := ⟨u, v, hu.trans hasks, hnext⟩
      absent := hafter.absent (hbefore.absent habsent)
      table := ⟨t₁, ht₁, hmore.maxRetry.trans (hretry.trans hasks),
        hmore.findTime.trans (hwindow.trans hwithin),
        Table.get?_eq_none_iff.2 hempty⟩ }

/-- However many rounds there were, the next one begins as the first one
did. -/
theorem of_rounds {w₀ : Ward} {f₀ : Offence} {y : Ward × Offence}
    (hready : Ready a maxRetry window w₀ f₀)
    (hrounds : ReflTransGen (Round a) (w₀, f₀) y)
    (hmax : maxRetry ≤ Offence.maxAttempts) :
    Ready a maxRetry window y.1 y.2 := by
  induction hrounds with
  | refl => exact hready
  | tail _ hround ih => exact ih.of_round hround hmax

end Ready

/-- The next failure, a hundred seconds later. -/
def nextFailure : Offence := { handedOut with time := 1100, attempts := 1 }

/-- What is handed out with it. -/
def handedOutAgain : Offence := { handedOut with time := 1100 }

/-- The worker and its table after the ban failed once and the next failure
was counted and handed out. -/
def afterRound : Ward :=
  { ((Call.ban handedOut).run guarded).result broken with
    table := some ((Roster.restore { total := 3 } handedOut).add
      nextFailure).drain.2 }

/-- The worker has just handed the offence out. -/
theorem guarded_ready :
    Ready handedOut.source 3 600 guarded handedOut where
  source := rfl
  handed := ⟨Table.add {} handedOut, _, rfl, rfl⟩
  absent := by decide +kernel
  table := ⟨_, rfl, rfl, rfl, rfl⟩

/-- The table of the worker after the ban failed. -/
theorem guarded_table :
    (((Call.ban handedOut).run guarded).result broken).table
      = some (Roster.restore { total := 3 } handedOut) := by
  show ((guarded.roster.ban guarded.table handedOut).result broken).2.2 = _
  rw [Roster.ban_of_fails (by decide +kernel) (by decide +kernel)]
  rfl

/-- A failure so early that there is no room for the beginning of the
window that ends with it. -/
def earliestFailure : Offence :=
  { nextFailure with time := -9223372036854775798 }

end Gatewatch.Action
