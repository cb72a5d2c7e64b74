/-
Bans and unbans pair up.

# The books

Fix a source and read its batches in order. At any point the last batch
tells whether a ban stands: it does when that batch carried a ban out
(`standing`). The books are kept (`Books`) when

- each batch found its source as it needs it: a ban batch with no ban
  standing, an unban batch with the ban of its own event
  (`Alternates`), and
- the roll lists exactly the bans that stand, with their events.

Every move of a call keeps the books (`Books.step`): a ban batch runs
only for a source that the roll does not list, and an unban batch only
for a ban that was just taken off the roll. A prolongation writes a
duration, which is no part of an event, so it leaves the books alone.

The law itself is read off the books: two ban batches in a row mean that
the first failed, and an unban batch follows the batch of the same
event.
-/
import Gatewatch.Proofs.Ban.Batch
import Mathlib.Data.List.Basic

namespace Gatewatch.Action

open Net (Address)

-- ======================================================== what stands

/-- The batches of a source, in order. -/
def batchesOf (source : Address) (trace : List Batch) : List Batch :=
  trace.filter (·.source == source)

/-- The event of the ban that the last batch carried out, if it is one
that did. -/
def standing (bs : List Batch) : Option Ban.Event :=
  match bs.getLast? with
  | some x => if x.kind = .ban ∧ x.failed = false then some x.event else none
  | none => none

theorem standing_snoc (bs : List Batch) (x : Batch) :
    standing (bs ++ [x])
      = if x.kind = .ban ∧ x.failed = false then some x.event else none := by
  unfold standing
  rw [List.getLast?_concat]

/-- A ban stands when the last batch carried it out. -/
theorem standing_eq_some {bs : List Batch} {e : Ban.Event} :
    standing bs = some e ↔ ∃ p x, bs = p ++ [x] ∧ x.kind = .ban
      ∧ x.failed = false ∧ x.event = e := by
  constructor
  · intro h
    rcases List.eq_nil_or_concat' bs with rfl | ⟨p, x, rfl⟩
    · cases h
    · rw [standing_snoc] at h
      split at h
      case isTrue hx => exact ⟨p, x, rfl, hx.1, hx.2, by injection h⟩
      case isFalse => cases h
  · rintro ⟨p, x, rfl, hkind, hfailed, rfl⟩
    rw [standing_snoc, if_pos ⟨hkind, hfailed⟩]

/-- Each batch found its source as it needs it: a ban batch with no ban
standing, an unban batch with the ban of its own event. -/
def Alternates (bs : List Batch) : Prop :=
  ∀ p x q, bs = p ++ x :: q →
    match x.kind with
    | .ban => standing p = none
    | .unban => standing p = some x.event

theorem alternates_nil : Alternates [] := by
  intro p x q h
  cases p <;> cases h

/-- One more batch that finds its source as it needs it. -/
theorem Alternates.snoc {bs : List Batch} {x : Batch}
    (hbs : Alternates bs)
    (hx : match x.kind with
      | .ban => standing bs = none
      | .unban => standing bs = some x.event) :
    Alternates (bs ++ [x]) := by
  intro p y q h
  rcases List.eq_nil_or_concat' q with rfl | ⟨q', z, rfl⟩
  · obtain ⟨rfl, hxy⟩ := List.append_inj' h rfl
    injection hxy with hxy
    rw [← hxy]
    exact hx
  · rw [← List.cons_append, ← List.append_assoc] at h
    exact hbs p y q' (List.append_inj' h rfl).1

-- ========================================================== the books

/-- The account of a roll: the batches of each source alternate, and the
roll lists the bans that stand. -/
structure Books (roll : Ban.Roll) (trace : List Batch) : Prop where
  unique : roll.Unique
  alternates : ∀ source, Alternates (batchesOf source trace)
  listed : ∀ source,
    standing (batchesOf source trace) = (roll.get? source).map Ban.event

/-- The books of an empty roll. -/
theorem books_init (total : Nat) (banTime : Int) :
    Books { bans := [], total, banTime } [] where
  unique := List.nodup_nil
  alternates _ := alternates_nil
  listed _ := rfl

/-- One batch more, for its own source and for the others. -/
theorem batchesOf_snoc (source : Address) (trace : List Batch)
    (x : Batch) :
    batchesOf source (trace ++ [x])
      = if x.source = source then batchesOf source trace ++ [x]
        else batchesOf source trace := by
  unfold batchesOf
  rw [List.filter_append]
  by_cases hx : x.source = source
  · simp [hx]
  · simp [hx]

/-- The ban of a source is what a roll with the same events tells. -/
theorem event_get?_congr {roll roll' : Ban.Roll}
    (h : roll'.events = roll.events) (source : Address) :
    (roll'.get? source).map Ban.event = (roll.get? source).map Ban.event := by
  rw [Ban.Roll.event_get?, Ban.Roll.event_get?, h]

/-- The bans that are taken away and lifted are off the books. -/
theorem Books.lifted {roll : Ban.Roll} {trace batches : List Batch}
    {p : Ban → Bool} (hb : Books roll trace)
    (hpurposes : batches.map Batch.purpose
      = (roll.bans.filter p).map fun b => (.unban, b.source, b.event)) :
    Books (roll.keep fun b => !p b) (trace ++ batches) := by
  -- the batches of a source are those of its bans that pass the test
  have hof : ∀ source, (batchesOf source batches).map Batch.purpose
      = ((roll.get? source).filter p).toList.map
          fun b => (.unban, b.source, b.event) := by
    intro source
    rw [← Ban.Roll.filter_of_source hb.unique]
    unfold batchesOf
    have hpick : ∀ l : List Batch, (l.filter (·.source == source)).map
        Batch.purpose = (l.map Batch.purpose).filter (·.2.1 == source) := by
      intro l
      rw [List.filter_map]
      rfl
    rw [hpick, hpurposes, List.filter_map]
    rfl
  have happend : ∀ source, batchesOf source (trace ++ batches)
      = batchesOf source trace ++ batchesOf source batches := fun source =>
    List.filter_append ..
  have hkept : ∀ source, Alternates (batchesOf source (trace ++ batches))
      ∧ standing (batchesOf source (trace ++ batches))
        = ((roll.keep fun b => !p b).get? source).map Ban.event := by
    intro source
    have hsource := hof source
    have hlisted := hb.listed source
    rw [happend, Ban.Roll.get?_keep hb.unique]
    cases hget : roll.get? source with
    | none =>
        rw [hget] at hsource hlisted
        rw [List.map_eq_nil_iff.mp hsource, List.append_nil]
        exact ⟨hb.alternates source, hlisted⟩
    | some b =>
        rw [hget] at hsource hlisted
        cases hp : p b with
        | false =>
            rw [Option.filter_some, if_neg (by simp [hp])] at hsource
            rw [List.map_eq_nil_iff.mp hsource, List.append_nil,
              Option.filter_some, if_pos (by simp [hp])]
            exact ⟨hb.alternates source, hlisted⟩
        | true =>
            rw [Option.filter_some, if_pos hp] at hsource
            obtain ⟨x, hx, hpurpose⟩ := List.map_eq_singleton_iff.mp hsource
            have hkind : x.kind = .unban := congrArg (·.1) hpurpose
            have hevent : x.event = b.event := congrArg (·.2.2) hpurpose
            rw [hx, standing_snoc, if_neg (by simp [hkind]),
              Option.filter_some, if_neg (by simp [hp])]
            refine ⟨(hb.alternates source).snoc ?_, rfl⟩
            rw [hkind]
            simpa [hevent] using hlisted
  exact ⟨hb.unique.keep _, fun source => (hkept source).1,
    fun source => (hkept source).2⟩

/-- A ban of a source that had none is answered for that source, and for
no other. -/
theorem get?_add_of_absent {roll : Ban.Roll} {b : Ban}
    (habsent : roll.get? b.source = none) (source : Address) :
    (roll.add b).2.get? source
      = if b.source = source then some b else roll.get? source := by
  rw [Ban.Roll.add_of_absent habsent]
  show (roll.bans ++ [b]).find? _ = _
  rw [List.find?_append]
  by_cases hs : b.source = source
  · subst hs
    have hnone : roll.bans.find? (·.source == b.source) = none := habsent
    simp [hnone]
  · have hone : [b].find? (·.source == source) = none := by simp [hs]
    rw [hone, Option.or_none, if_neg hs]
    rfl

/-- Every move keeps the books. -/
theorem Books.step {roll roll' : Ban.Roll} {trace batches : List Batch}
    (hb : Books roll trace) (hm : Moves roll batches roll') :
    Books roll' (trace ++ batches) := by
  cases hm with
  | still hevents =>
      rw [List.append_nil]
      refine ⟨hb.unique.of_events hevents, hb.alternates, fun source => ?_⟩
      rw [event_get?_congr hevents]
      exact hb.listed source
  | @banned b x habsent hpurpose hcarried =>
      have hkind : x.kind = .ban := congrArg (·.1) hpurpose
      have hsource : x.source = b.source := congrArg (·.2.1) hpurpose
      have hevent : x.event = b.event := congrArg (·.2.2) hpurpose
      refine ⟨hb.unique.add b, fun source => ?_, fun source => ?_⟩
      · rw [batchesOf_snoc, hsource]
        split
        case isTrue hs =>
          refine (hb.alternates source).snoc ?_
          rw [hkind]
          show standing _ = none
          rw [hb.listed, ← hs, habsent]
          rfl
        case isFalse => exact hb.alternates source
      · rw [batchesOf_snoc, hsource, get?_add_of_absent habsent]
        split
        case isTrue hs =>
          rw [standing_snoc, if_pos ⟨hkind, hcarried⟩, hevent]
          rfl
        case isFalse => exact hb.listed source
  | @failed x _ habsent hkind hfailed hevents =>
      refine ⟨hb.unique.of_events hevents, fun source => ?_,
        fun source => ?_⟩
      · rw [batchesOf_snoc]
        split
        case isTrue hs =>
          refine (hb.alternates source).snoc ?_
          rw [hkind]
          show standing _ = none
          rw [hb.listed, ← hs, habsent]
          rfl
        case isFalse => exact hb.alternates source
      · rw [batchesOf_snoc, event_get?_congr hevents]
        split
        case isTrue hs =>
          rw [standing_snoc, if_neg (by simp [hfailed]), ← hs, habsent]
          rfl
        case isFalse => exact hb.listed source
  | lifted hpurposes => exact hb.lifted hpurposes

/-- Every run of calls keeps the books. -/
theorem Books.run {σ : Type} [Shell σ] {w : Ward} {trace : List Batch}
    (hb : Books w.roster.roll trace) (calls : List Call) (h : Host σ) :
    Books ((Call.watchAll w calls).result h).1.roster.roll
      (trace ++ ((Call.watchAll w calls).result h).2) := by
  induction calls generalizing w trace h with
  | nil => simpa [Call.watchAll] using hb
  | cons c rest ih =>
      have hstep := hb.step (Call.watch_moves hb.unique c h)
      have hrest := ih hstep ((c.watch w).after h)
      rw [List.append_assoc] at hrest
      exact hrest

-- ============================================================ the law

/-- Two ban batches in a row: every action failed in the earlier one. -/
theorem Alternates.failed_of_ban_ban {bs p q : List Batch} {x y : Batch}
    (hbs : Alternates bs) (h : bs = p ++ x :: y :: q)
    (hx : x.kind = .ban) (hy : y.kind = .ban) : x.failed = true := by
  have hstand := hbs (p ++ [x]) y q (by simp [h])
  rw [hy] at hstand
  have hnone : standing (p ++ [x]) = none := hstand
  rw [standing_snoc] at hnone
  cases hfailed : x.failed with
  | true => rfl
  | false =>
      rw [if_pos ⟨hx, hfailed⟩] at hnone
      cases hnone

/-- An unban batch comes right after the batch that carried its ban
out. -/
theorem Alternates.ban_of_unban {bs p q : List Batch} {y : Batch}
    (hbs : Alternates bs) (h : bs = p ++ y :: q)
    (hy : y.kind = .unban) :
    ∃ p' x, p = p' ++ [x] ∧ x.kind = .ban ∧ x.failed = false
      ∧ x.event = y.event := by
  have hstand := hbs p y q h
  rw [hy] at hstand
  exact standing_eq_some.mp hstand

/-- A roll lists a source exactly when the last batch of the source
carried a ban out. -/
theorem Books.contains_iff {roll : Ban.Roll} {trace : List Batch}
    (hb : Books roll trace) (source : Address) :
    roll.contains source = true ↔ ∃ p x, batchesOf source trace = p ++ [x]
      ∧ x.kind = .ban ∧ x.failed = false := by
  have hlisted := hb.listed source
  rw [Ban.Roll.contains_eq]
  constructor
  · intro hsome
    obtain ⟨b, hget⟩ := Option.isSome_iff_exists.mp hsome
    rw [hget] at hlisted
    obtain ⟨p, x, hbs, hkind, hfailed, -⟩ := standing_eq_some.mp hlisted
    exact ⟨p, x, hbs, hkind, hfailed⟩
  · rintro ⟨p, x, hbs, hkind, hfailed⟩
    have hstand := standing_eq_some.mpr ⟨p, x, hbs, hkind, hfailed, rfl⟩
    rw [hlisted] at hstand
    cases hget : roll.get? source with
    | some b => rfl
    | none =>
        rw [hget] at hstand
        cases hstand

/-- A run leaves the actions alone, and each of its batches has a result
of every one of them. -/
theorem Call.watchAll_actions {σ : Type} [Shell σ] (w : Ward)
    (calls : List Call) (h : Host σ) :
    ((watchAll w calls).result h).1.roster.actions = w.roster.actions
      ∧ ∀ x ∈ ((watchAll w calls).result h).2,
          x.results.length = w.roster.actions.length := by
  induction calls generalizing w h with
  | nil => exact ⟨rfl, fun x hx => by cases hx⟩
  | cons c rest ih =>
      obtain ⟨hstep, hbatches⟩ := watch_actions w c h
      obtain ⟨hrest, hmore⟩ := ih ((c.watch w).result h).1 ((c.watch w).after h)
      rw [hstep] at hrest hmore
      refine ⟨hrest, fun x hx => ?_⟩
      rcases List.mem_append.mp hx with hx | hx
      · exact hbatches x hx
      · exact hmore x hx

/-- A ban that is not new runs no command: it has no batch, and the shell
is not used. -/
theorem Call.watch_not_new {σ : Type} [Shell σ] (w : Ward) (o : Offence)
    (h : Host σ)
    (heffect : ((w.roster.ban w.table o).result h).1 ≠ .banned) :
    (((Call.ban o).watch w).result h).2 = []
      ∧ ((w.roster.ban w.table o).after h).shell = h.shell := by
  revert heffect
  simp only [watch, Roster.ban]
  cases (w.roster.enter o).2.1 with
  | banned =>
      intro heffect
      simp only [Work.result_bind] at heffect
      split at heffect
      all_goals exact absurd rfl heffect
  | prolonged => exact fun _ => ⟨rfl, rfl⟩
  | alreadyBanned => exact fun _ => ⟨rfl, rfl⟩

/-- Bans and unbans pair up. Whatever calls are made of a roster that
started without bans, and however its commands fare, the watched run is
the run, each batch runs every action, and of each source

- two ban batches follow each other only when every action failed in the
  earlier one,
- an unban batch comes right after a ban batch that did not fail, and is
  rendered with the same event,
- the roll lists the source exactly when its last batch is a ban batch
  that did not fail.

A ban that only prolongs another, or does not even that, runs nothing. -/
theorem bans_and_unbans_pair {σ : Type} [Shell σ] (jail : String)
    (actions : List Action) (banTime : Int) (table : Option Offence.Table)
    (calls : List Call) (h : Host σ) :
    let start : Ward := { roster := { jail, actions, roll := { banTime } }, table }
    let w : Ward := ((Call.watchAll start calls).result h).1
    let trace : List Batch := ((Call.watchAll start calls).result h).2
    (Call.runAll start calls : Work σ Ward)
        = Prod.fst <$> Call.watchAll start calls
      ∧ (∀ x ∈ trace, x.results.length = actions.length)
      ∧ (∀ source,
          (∀ p x y q, batchesOf source trace = p ++ x :: y :: q →
            x.kind = .ban → y.kind = .ban → x.failed = true)
          ∧ (∀ p y q, batchesOf source trace = p ++ y :: q →
            y.kind = .unban → ∃ p' x, p = p' ++ [x] ∧ x.kind = .ban
              ∧ x.failed = false ∧ x.event = y.event)
          ∧ (w.roster.roll.contains source = true ↔
            ∃ p x, batchesOf source trace = p ++ [x] ∧ x.kind = .ban
              ∧ x.failed = false))
      ∧ ∀ (o : Offence) (h' : Host σ),
          ((w.roster.ban w.table o).result h').1 ≠ .banned →
          (((Call.ban o).watch w).result h').2 = []
            ∧ ((w.roster.ban w.table o).after h').shell = h'.shell := by
  intro start w trace
  have hbooks : Books w.roster.roll trace :=
    (books_init 0 banTime).run (w := start) calls h
  refine ⟨Call.runAll_eq_watchAll start calls,
    (Call.watchAll_actions start calls h).2, fun source => ?_, ?_⟩
  · have halt := hbooks.alternates source
    refine ⟨?_, ?_, hbooks.contains_iff source⟩
    · intro p x y q heq hx hy
      exact halt.failed_of_ban_ban heq hx hy
    · intro p y q heq hy
      exact halt.ban_of_unban heq hy
  · intro o h' heffect
    exact Call.watch_not_new w o h' heffect

end Gatewatch.Action
