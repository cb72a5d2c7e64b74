/-
Stale entries may be forgotten, or not: the same sources are banned.

# Rounds

A table is used in rounds. In each round offences are added, what is due
is handed out, and stale entries are forgotten at the time of the round
(`Table.rounds`). No offence that is added later is older than that.

# The simulation

Two tables go through the same rounds, and only one of them forgets. Then
a source has the same entry in both, or none in the one that forgets and
a stale one in the other (`Table.Stands`). A stale entry has too few
attempts to be handed out. Its window has ended before any offence that
is still to come, as a window starts no later than its last offence. So
the next offence of the source renews the entry, and this leaves nothing
of it that a new entry would not have (`Entry.count_renew_of_stale`).
A renewed entry keeps its place and a new one comes last, so the order
in which the two hand out may differ.
-/
import Gatewatch.Proofs.Offence.Draining

namespace Gatewatch.Offence

open Net (Address)

namespace Entry

/-- An entry that started no later than its last offence. -/
def Started (e : Entry) : Prop := e.firstSeen ≤ e.lastSeen

/-- Offences that are counted keep it so. -/
theorem Started.count {e : Entry} (he : e.Started) (window : Int)
    (o : Offence) : ((e.renew window o).count o).Started := by
  unfold Started at he ⊢
  show (e.renew window o).firstSeen
    ≤ max (e.renew window o).lastSeen o.time
  unfold renew
  split
  · exact Int.le_max_right ..
  · exact Int.le_trans he (Int.le_max_left ..)

/-- An offence behind the window of the last one leaves nothing of an
entry. -/
theorem count_renew_of_stale {e : Entry} {o : Offence} {window : Int}
    (hwindow : 0 ≤ window) (he : e.Started) (hsource : e.source = o.source)
    (hfits : Word.Fits 64 (o.time - window))
    (hstale : e.lastSeen + window < o.time) :
    (e.renew window o).count o = (start o).count o := by
  unfold Started at he
  have hended : e.firstSeen < horizon o.time window := by
    rw [horizon_of_fits hfits]
    omega
  have hlast : max e.lastSeen o.time = max o.time o.time := by omega
  unfold renew
  rw [if_pos hended]
  unfold count start
  simp only [hsource, hlast]

end Entry

namespace Table

-- ============================================================== rounds

/-- The offences of a round, and the time at which it forgets. -/
structure Round where
  added : List Offence
  now : Int

/-- The windows that end with an offence of a round, or at the time at
which it forgets, have a beginning that can be told. -/
structure Round.Told (window : Int) (r : Round) : Prop where
  added : Table.Told window r.added
  now : Word.Fits 64 (r.now - window)

instance (window : Int) (r : Round) : Decidable (r.Told window) :=
  decidable_of_iff (Table.Told window r.added
    ∧ Word.Fits 64 (r.now - window)) ⟨fun h => ⟨h.1, h.2⟩,
      fun h => ⟨h.added, h.now⟩⟩

/-- The table after some offences are added. -/
def addAll (t : Table) (offences : List Offence) : Table :=
  offences.foldl add t

/-- What is handed out in each of some rounds, and the total after it.
The flag tells whether stale entries are forgotten. -/
def rounds (forgets : Bool) (t : Table) :
    List Round → List (List Offence × Nat)
  | [] => []
  | r :: rest =>
    let (due, left) := (t.addAll r.added).drain
    (due, left.total)
      :: rounds forgets (if forgets then left.cleanup r.now else left) rest

theorem Unique.addAll {t : Table} (ht : t.Unique)
    (offences : List Offence) : (t.addAll offences).Unique := by
  induction offences generalizing t with
  | nil => exact ht
  | cons o rest ih => exact ih (ht.add o)

theorem findTime_addAll (t : Table) (offences : List Offence) :
    (t.addAll offences).findTime = t.findTime := by
  induction offences generalizing t with
  | nil => rfl
  | cons o rest ih => exact ih (t.add o)

/-- A round hands out the entries that are due, and goes on with the
others. -/
theorem rounds_cons {t : Table} (ht : t.Unique) (forgets : Bool)
    (r : Round) (rest : List Round) :
    t.rounds forgets (r :: rest)
      = ((t.addAll r.added).due.map Entry.toOffence,
          (t.addAll r.added).total)
        :: (if forgets then (t.addAll r.added).rest.cleanup r.now
            else (t.addAll r.added).rest).rounds forgets rest := by
  rw [rounds, drain_eq (ht.addAll r.added)]
  rfl

-- ====================================================== the simulation

variable {t u : Table} {coming : List Offence}

/-- An entry that is not due, and that none of the offences to come will
count on. -/
structure Stale (u : Table) (coming : List Offence) (e : Entry) : Prop where
  notDue : u.isDue e = false
  ended : ∀ o ∈ coming, e.lastSeen + u.findTime < o.time

/-- A table that forgets stands for one that does not: a source has the
same entry in both, or none in the first and a stale one in the other. -/
structure Stands (coming : List Offence) (t u : Table) : Prop where
  left : t.Unique
  right : u.Unique
  total : t.total = u.total
  maxRetry : t.maxRetry = u.maxRetry
  findTime : t.findTime = u.findTime
  started : ∀ source e, u.get? source = some e → e.Started
  agree : ∀ source, t.get? source = u.get? source
    ∨ t.get? source = none
      ∧ ∀ e, u.get? source = some e → u.Stale coming e

namespace Stands

/-- An empty table stands for itself. -/
theorem empty (coming : List Offence) (maxRetry : Nat) (window : Int) :
    Stands coming { maxRetry, findTime := window }
      { maxRetry, findTime := window } :=
  ⟨List.nodup_nil, List.nodup_nil, rfl, rfl, rfl, nofun, fun _ => .inl rfl⟩

/-- The same entries are due in both. -/
theorem isDue (h : Stands coming t u) : t.isDue = u.isDue := by
  funext e
  unfold Table.isDue
  rw [h.maxRetry]

/-- The next offence that comes is counted alike in both. -/
theorem add {o : Offence} (h : Stands (o :: coming) t u)
    (hwindow : 0 ≤ u.findTime)
    (hfits : Word.Fits 64 (o.time - u.findTime)) :
    Stands coming (t.add o) (u.add o) := by
  refine ⟨h.left.add o, h.right.add o, ?_, h.maxRetry, h.findTime, ?_, ?_⟩
  · show t.total + o.weight = u.total + o.weight
    rw [h.total]
  · intro source e he
    rw [get?_add] at he
    split at he
    · cases hold : u.get? source with
      | none =>
          rw [hold] at he
          cases he
          exact Int.le_max_left ..
      | some old =>
          rw [hold] at he
          cases he
          exact (h.started source old hold).count _ o
    · exact h.started source e he
  · intro source
    rw [get?_add, get?_add, h.findTime]
    by_cases ho : o.source = source
    · rw [if_pos ho, if_pos ho]
      left
      rcases h.agree source with hsame | ⟨hnone, hstale⟩
      · rw [hsame]
      · rw [hnone]
        -- one table makes an entry, and the other renews a stale one
        cases hold : u.get? source with
        | none => rfl
        | some old =>
            have hsource : old.source = o.source := by
              have := List.find?_some hold
              rw [ho]
              simpa using this
            have hended := (hstale old hold).ended o
              (List.mem_cons_self ..)
            exact congrArg some (Entry.count_renew_of_stale hwindow
              (h.started source old hold) hsource hfits hended).symm
    · rw [if_neg ho, if_neg ho]
      rcases h.agree source with hsame | ⟨hnone, hstale⟩
      · exact .inl hsame
      · right
        refine ⟨hnone, fun e he => ⟨(hstale e he).notDue, fun o' ho' => ?_⟩⟩
        exact (hstale e he).ended o' (List.mem_cons_of_mem _ ho')

/-- All the next offences are counted alike in both. -/
theorem addAll {offences : List Offence}
    (h : Stands (offences ++ coming) t u) (hwindow : 0 ≤ u.findTime)
    (htold : Told u.findTime offences) :
    Stands coming (t.addAll offences) (u.addAll offences) := by
  induction offences generalizing t u with
  | nil => exact h
  | cons o rest ih =>
      obtain ⟨hfirst, hrest⟩ := List.forall_mem_cons.1 htold
      exact ih (h.add hwindow hfirst) hwindow hrest

/-- An entry that is due is in both tables or in none. -/
theorem mem_due_iff (h : Stands coming t u) (e : Entry) :
    e ∈ t.due ↔ e ∈ u.due := by
  unfold due
  rw [List.mem_filter, List.mem_filter, h.isDue]
  apply and_congr_left
  intro hdue
  rw [mem_entries_iff h.left, mem_entries_iff h.right]
  rcases h.agree e.source with hsame | ⟨hnone, hstale⟩
  · rw [hsame]
  · rw [hnone]
    constructor
    · nofun
    · intro he
      rw [(hstale e he).notDue] at hdue
      cases hdue

/-- What is due is the same, up to its order. -/
theorem due_perm (h : Stands coming t u) : t.due.Perm u.due := by
  have hnd : ∀ {w : Table}, w.Unique → w.due.Nodup := fun hw =>
    (List.Nodup.of_map _ hw).filter _
  rw [List.perm_ext_iff_of_nodup (hnd h.left) (hnd h.right)]
  exact h.mem_due_iff

/-- What is due is taken from both. -/
theorem rest (h : Stands coming t u) : Stands coming t.rest u.rest := by
  refine ⟨h.left.rest, h.right.rest, h.total, h.maxRetry, h.findTime,
    ?_, ?_⟩
  · intro source e he
    unfold Table.rest at he
    rw [get?_filter h.right] at he
    exact h.started source e (Option.eq_some_of_filter_eq_some he)
  · intro source
    unfold Table.rest
    rw [get?_filter h.left, get?_filter h.right, h.isDue]
    rcases h.agree source with hsame | ⟨hnone, hstale⟩
    · rw [hsame]
      exact .inl rfl
    · rw [hnone]
      right
      refine ⟨rfl, fun e he => ?_⟩
      have hold := hstale e (Option.eq_some_of_filter_eq_some he)
      exact ⟨hold.notDue, hold.ended⟩

/-- Where nothing is due, the first table forgets what no offence to come
will count on. -/
theorem cleanup (h : Stands coming t u) {now : Int}
    (hfits : Word.Fits 64 (now - u.findTime))
    (hdue : ∀ source e, u.get? source = some e → u.isDue e = false)
    (hnow : ∀ o ∈ coming, now ≤ o.time) :
    Stands coming (t.cleanup now) u := by
  refine ⟨h.left.sublist (List.filter_sublist.map _), h.right, h.total,
    h.maxRetry, h.findTime, h.started, ?_⟩
  intro source
  unfold Table.cleanup
  rw [get?_filter h.left]
  rcases h.agree source with hsame | ⟨hnone, hstale⟩
  · rw [hsame]
    cases hold : u.get? source with
    | none => exact .inl rfl
    | some e =>
        rw [Option.filter_some]
        by_cases hkept : horizon now t.findTime ≤ e.lastSeen
        · left
          rw [if_pos (by simpa using hkept)]
        · -- what is forgotten is stale: its window ended before `now`
          right
          rw [if_neg (by simpa using hkept)]
          refine ⟨rfl, ?_⟩
          rintro _ ⟨⟩
          refine ⟨hdue source e hold, fun o ho => ?_⟩
          have := hnow o ho
          rw [h.findTime, horizon_of_fits hfits] at hkept
          omega
  · right
    rw [hnone]
    exact ⟨rfl, hstale⟩

/-- In every round both hand out the same, up to its order. -/
theorem rounds {rounds : List Round} {coming : List Offence}
    (hcoming : coming = rounds.flatMap Round.added)
    (h : Stands coming t u) (hwindow : 0 ≤ u.findTime)
    (htold : ∀ r ∈ rounds, r.Told u.findTime)
    (hlater : rounds.Pairwise fun r later =>
      ∀ o ∈ later.added, r.now ≤ o.time) :
    List.Forall₂ (fun a b => a.1.Perm b.1 ∧ a.2 = b.2)
      (t.rounds true rounds) (u.rounds false rounds) := by
  -- what is still to come are the offences of the rounds that are left
  induction rounds generalizing t u coming with
  | nil => exact .nil
  | cons r rest ih =>
      rw [List.pairwise_cons] at hlater
      rw [List.flatMap_cons] at hcoming
      obtain ⟨hr, hrest⟩ := List.forall_mem_cons.1 htold
      have hsame : (u.addAll r.added).rest.findTime = u.findTime :=
        findTime_addAll u r.added
      rw [rounds_cons h.left, rounds_cons h.right]
      have hadded : Stands (rest.flatMap Round.added)
          (t.addAll r.added) (u.addAll r.added) := by
        rw [hcoming] at h
        exact h.addAll hwindow hr.added
      refine .cons ⟨hadded.due_perm.map _, hadded.total⟩ ?_
      apply ih rfl (hadded.rest.cleanup (by rw [hsame]; exact hr.now) ?_ ?_)
        (by rw [hsame]; exact hwindow) (by rw [hsame]; exact hrest) hlater.2
      · intro source e he
        unfold Table.rest at he
        rw [get?_filter hadded.right] at he
        have := Option.eq_some_of_filter_eq_some he
        have hkept := (Option.filter_eq_some_iff.1 he).2
        rw [Bool.not_eq_true'] at hkept
        exact hkept
      · intro o ho
        obtain ⟨later, hmem, ho⟩ := List.mem_flatMap.1 ho
        exact hlater.1 later hmem o ho

end Stands

-- ========================================================== the rounds

/-- An attempt of a host. -/
def attemptFrom (text : String) (time : Int) : Offence :=
  { source := Net.Address.parse text, time }

/-- The first of two hosts is forgotten after the first round. In the
second round both reach two attempts. -/
def firstForgotten : List Round :=
  [⟨[attemptFrom "1.1.1.1" 0, attemptFrom "2.2.2.2" 500], 700⟩,
    ⟨[attemptFrom "1.1.1.1" 700, attemptFrom "2.2.2.2" 701,
      attemptFrom "1.1.1.1" 702], 800⟩]

/-- Rounds at times so early that there is no room for the beginning of a
window: a host is seen, and again in the next round. -/
def earliestRounds : List Round :=
  [⟨[attemptFrom "1.1.1.1" (-9223372036854775658)], -9223372036854775798⟩,
    ⟨[attemptFrom "1.1.1.1" (-9223372036854775108)], -9223372036854774808⟩]

end Table

end Gatewatch.Offence
