/-
A table of offences that keeps its entries in no order, and hands them
out in the order in which they were made.

# Numbers in place of an order

A store visits its entries in any order, and in another one for each use
(`Store.Run`). So it numbers them: an entry gets the next number when it
is made and keeps it, and of the entries with attempts enough the one
with the least number is handed out (`Store.oldest?`).

# The simulation

A store stands for a table (`Store.StandsFor`) when its items, put in the
order of the table, have rising numbers, all below the next one. The
order in which the items are visited is no part of this, every use keeps
it, and it makes the least number among the entries that are due that of
the first of them (`StandsFor.oldest?_eq`). So whatever the order of each
visit is, a store hands out what the table hands out
(`StandsFor.run`).
-/
import Gatewatch.Proofs.Offence.Order
import Mathlib.Data.List.MinMax

namespace Gatewatch.Offence

open Net (Address)
open Table (Use)

/-- An entry, with the number that it got when it was made. -/
structure Item where
  number : Nat
  entry : Entry
deriving DecidableEq

/-- Numbered entries in the order in which they are visited, the number
of the next one, and what a table keeps besides its entries. -/
structure Store where
  items : List Item := []
  nextNumber : Nat := 0
  total : Nat := 0
  maxRetry : Nat := 3
  findTime : Int := 600

namespace Store

-- ================================================================ uses

/-- Whether a source has an entry. -/
def has (s : Store) (source : Address) : Bool :=
  s.items.any (·.entry.source == source)

/-- Counts an offence in the entry of its source, or in a new one, which
gets the next number. -/
def add (s : Store) (o : Offence) : Store :=
  if s.has o.source then
    { s with
      items := s.items.map fun i =>
        if i.entry.source = o.source then
          { i with entry := (i.entry.renew s.findTime o).count o }
        else i
      total := s.total + o.weight }
  else
    { s with
      items := s.items ++ [⟨s.nextNumber, (Entry.start o).count o⟩]
      nextNumber := s.nextNumber + 1
      total := s.total + o.weight }

/-- The store with only the entries that pass a test. -/
def keep (s : Store) (p : Entry → Bool) : Store :=
  { s with items := s.items.filter (p ·.entry) }

/-- Of the entries with attempts enough, the one with the least
number. -/
def oldest? (s : Store) : Option Item :=
  (s.items.filter fun i => s.maxRetry ≤ i.entry.attempts).argmin Item.number

/-- The store after a use. -/
def use (s : Store) : Use → Store
  | .step (.add o) => s.add o
  | .step (.cleanup now) => s.keep fun e => horizon now s.findTime ≤ e.lastSeen
  | .step .next => match s.oldest? with
    | some i => s.keep (·.source != i.entry.source)
    | none => s
  | .maxRetry n => { s with maxRetry := n }
  | .findTime secs => { s with findTime := secs }

/-- What a use hands out. -/
def handed? (s : Store) : Use → Option Offence
  | .step .next => s.oldest?.map (·.entry.toOffence)
  | _ => none

/-- The store with its items in some order. -/
def inOrder (s : Store) (order : List Item) : Store :=
  { s with items := order }

/-- Uses of a store, with what they hand out. Before each of them the
items come into any order. -/
inductive Run : Store → List Use → List Offence → Store → Prop
  | done (s : Store) : Run s [] [] s
  | use {s s' : Store} {u : Use} {rest : List Use} {handed : List Offence}
      (order : List Item) (same : order.Perm s.items)
      (more : Run ((s.inOrder order).use u) rest handed s') :
      Run s (u :: rest)
        (((s.inOrder order).handed? u).toList ++ handed) s'

-- ====================================================== the simulation

/-- A store stands for a table: in the order of the table, the numbers of
its items rise up to the next one. -/
structure StandsFor (s : Store) (t : Table) : Prop where
  items : ∃ items : List Item, s.items.Perm items
    ∧ items.map Item.entry = t.entries
    ∧ items.Pairwise (fun i k => i.number < k.number)
    ∧ ∀ i ∈ items, i.number < s.nextNumber
  total : s.total = t.total
  maxRetry : s.maxRetry = t.maxRetry
  findTime : s.findTime = t.findTime

namespace StandsFor

variable {s : Store} {t : Table}

/-- The order in which the items are visited is no part of it. -/
theorem inOrder (h : s.StandsFor t) {order : List Item}
    (same : order.Perm s.items) : (s.inOrder order).StandsFor t := by
  obtain ⟨items, hperm, hitems⟩ := h.items
  exact ⟨⟨items, same.trans hperm, hitems⟩, h.total, h.maxRetry,
    h.findTime⟩

/-- A source has an entry in the store when it has one in the table. -/
theorem has_iff (h : s.StandsFor t) (source : Address) :
    s.has source = true ↔ source ∈ t.entries.map Entry.source := by
  obtain ⟨items, hperm, hentries, -⟩ := h.items
  unfold has
  rw [hperm.any_eq, ← hentries, List.any_eq_true, List.map_map,
    List.mem_map]
  simp

/-- Dropping the entries that fail a test. -/
theorem keep (h : s.StandsFor t) (p : Entry → Bool) :
    (s.keep p).StandsFor { t with entries := t.entries.filter p } := by
  obtain ⟨items, hperm, hentries, hrise, hnext⟩ := h.items
  refine ⟨⟨items.filter (p ·.entry), hperm.filter _, ?_, ?_, ?_⟩,
    h.total, h.maxRetry, h.findTime⟩
  · rw [← hentries, List.filter_map]
    rfl
  · exact hrise.sublist List.filter_sublist
  · intro i hi
    exact hnext i (List.mem_filter.1 hi).1

/-- Counting an offence. -/
theorem add (ht : t.Unique) (h : s.StandsFor t) (o : Offence) :
    (s.add o).StandsFor (t.add o) := by
  obtain ⟨items, hperm, hentries, hrise, hnext⟩ := h.items
  have htotal : s.total + o.weight = t.total + o.weight := by
    rw [h.total]
  unfold Store.add
  by_cases hhas : s.has o.source = true
  · rw [if_pos hhas]
    refine ⟨⟨_, hperm.map _, ?_, ?_, ?_⟩, htotal, h.maxRetry, h.findTime⟩
    · rw [Table.entries_add_of_mem ht ((h.has_iff _).1 hhas), ← hentries,
        List.map_map, List.map_map, h.findTime]
      apply List.map_congr_left
      intro i _
      by_cases hi : i.entry.source = o.source <;> simp [hi]
    · apply hrise.map
      intro i k hik
      split <;> split <;> exact hik
    · intro k hk
      obtain ⟨i, hi, rfl⟩ := List.mem_map.1 hk
      have := hnext i hi
      split <;> exact this
  · rw [if_neg hhas]
    refine ⟨⟨items ++ [⟨s.nextNumber, (Entry.start o).count o⟩],
      hperm.append_right _, ?_, ?_, ?_⟩, htotal, h.maxRetry, h.findTime⟩
    · have hnone : t.get? o.source = none := by
        rw [h.has_iff, ← Table.isSome_get?_iff] at hhas
        simpa using hhas
      rw [List.map_append, hentries, Table.entries_add_of_none hnone]
      rfl
    · rw [List.pairwise_append]
      refine ⟨hrise, List.pairwise_singleton _ _, fun i hi k hk => ?_⟩
      rw [List.mem_singleton.1 hk]
      exact hnext i hi
    · intro i hi
      show i.number < s.nextNumber + 1
      rcases List.mem_append.1 hi with hi | hi
      · have := hnext i hi
        omega
      · rw [List.mem_singleton.1 hi]
        exact Nat.lt_succ_self _

/-- The least number among the entries that are due is that of the first
of them. -/
theorem oldest?_eq (h : s.StandsFor t) :
    s.oldest?.map Item.entry = t.entries.find? t.isDue := by
  obtain ⟨items, hperm, hentries, hrise, -⟩ := h.items
  have hdue : (fun i : Item => decide (s.maxRetry ≤ i.entry.attempts))
      = t.isDue ∘ Item.entry := by
    funext i
    rw [h.maxRetry]
    rfl
  have hfirst : s.oldest? = (items.filter (t.isDue ∘ Item.entry)).head? := by
    have hsame := hperm.filter (t.isDue ∘ Item.entry)
    have hsorted := hrise.sublist
      (List.filter_sublist (p := t.isDue ∘ Item.entry) (l := items))
    unfold oldest?
    rw [hdue]
    -- only the two lists matter from here on, and that one is sorted
    generalize s.items.filter _ = visited at hsame
    generalize items.filter _ = due at hsame hsorted
    cases due with
    | nil =>
        rw [hsame.eq_nil]
        rfl
    | cons i rest =>
        have hi : i ∈ visited := hsame.mem_iff.2 (List.mem_cons_self ..)
        cases hleast : visited.argmin Item.number with
        | none =>
            rw [List.argmin_eq_none.1 hleast] at hi
            cases hi
        | some k =>
            have hle : k.number ≤ i.number :=
              List.le_of_mem_argmin hi hleast
            have hk : k ∈ i :: rest :=
              hsame.mem_iff.1 (List.argmin_mem hleast)
            rcases List.mem_cons.1 hk with rfl | hk
            · rfl
            · have := (List.pairwise_cons.1 hsorted).1 k hk
              omega
  rw [hfirst, List.head?_filter, ← hentries, List.find?_map]

/-- Every use keeps what the store stands for, and hands out what the
table hands out. -/
theorem use (ht : t.Unique) (h : s.StandsFor t) (u : Use) :
    s.handed? u = t.handed? u ∧ (s.use u).StandsFor (t.use u) := by
  cases u with
  | maxRetry n => exact ⟨rfl, h.items, h.total, rfl, h.findTime⟩
  | findTime secs => exact ⟨rfl, h.items, h.total, h.maxRetry, rfl⟩
  | step st =>
      cases st with
      | add o => exact ⟨rfl, h.add ht o⟩
      | cleanup now =>
          refine ⟨rfl, ?_⟩
          show StandsFor (s.keep fun e => horizon now s.findTime ≤ e.lastSeen)
            (t.cleanup now)
          rw [h.findTime]
          exact h.keep _
      | next =>
          have holdest := h.oldest?_eq
          unfold handed? Table.handed? Store.use Table.use Table.step
            Table.next
          dsimp only
          cases hs : s.oldest? with
          | none =>
              rw [hs] at holdest
              rw [← holdest]
              exact ⟨rfl, h⟩
          | some i =>
              rw [hs] at holdest
              rw [← holdest]
              exact ⟨rfl, h.keep _⟩

/-- Whatever the order of each visit is, a store hands out what the table
hands out. -/
theorem run (ht : t.Unique) (h : s.StandsFor t) {uses : List Use}
    {handed : List Offence} {s' : Store} (hrun : s.Run uses handed s') :
    handed = t.handed uses ∧ s'.StandsFor (t.useAll uses) := by
  -- the order of a visit is undone before each use
  induction hrun generalizing t with
  | done s => exact ⟨rfl, h⟩
  | @use s s' u rest handed order same _ ih =>
      obtain ⟨hhanded, hnext⟩ := (h.inOrder same).use ht u
      obtain ⟨hmore, hlast⟩ := ih (ht.use u) hnext
      refine ⟨?_, hlast⟩
      rw [hhanded, hmore]
      rfl

end StandsFor

/-- Every history is one of some run. -/
theorem exists_run (s : Store) (uses : List Use) :
    ∃ handed s', s.Run uses handed s' := by
  induction uses generalizing s with
  | nil => exact ⟨[], s, .done s⟩
  | cons u rest ih =>
      obtain ⟨handed, s', hrun⟩ := ih ((s.inOrder s.items).use u)
      exact ⟨_, s', .use s.items (.refl _) hrun⟩

/-- An empty store stands for an empty table. -/
theorem standsFor_empty : ({} : Store).StandsFor {} :=
  ⟨⟨[], .refl _, rfl, .nil, nofun⟩, rfl, rfl, rfl⟩

-- ========================================================== all that is due

/-- Whatever a table was used for, and whatever the settings are now:
repeated calls hand out one offence for each entry that has attempts
enough, in the order in which the entries were made, and then nothing
more. The other entries and the total stay. A store whose entries are
visited in any order hands out the same. If an offence of a source whose
entry was handed out is the first to come since, its entry is behind all
others. -/
theorem due_are_handed_out_oldest_first (uses : List Use) :
    let t := ({} : Table).useAll uses
    (t.entries.map Entry.source).Nodup
      ∧ t.InOrder (({} : Table).made uses)
      ∧ t.drain = (t.due.map Entry.toOffence, t.rest)
      ∧ (∀ n, t.due.length ≤ n →
          t.handed (List.replicate n .next) = t.due.map Entry.toOffence
          ∧ t.useAll (List.replicate n .next) = t.rest)
      ∧ t.rest.next = none ∧ t.rest.total = t.total
      ∧ (∃ handed s, Run {} uses handed s)
      ∧ (∀ handed s, Run {} uses handed s →
          handed = ({} : Table).handed uses
          ∧ ∀ n more s', t.due.length ≤ n →
            s.Run (List.replicate n .next) more s' →
            more = t.due.map Entry.toOffence
            ∧ (s'.items.map Item.entry).Perm t.rest.entries
            ∧ s'.total = t.total)
      ∧ ∀ out u, t.next = some (out, u) → ∀ later,
          (∀ o, .step (.add o) ∈ later → o.source ≠ out.source) →
          ∀ o, o.source = out.source →
          ((u.useAll later).add o).entries
            = (u.useAll later).entries ++ [(Entry.start o).count o] := by
  intro t
  have hempty : ({} : Table).Unique := List.nodup_nil
  have ht : t.Unique := hempty.useAll uses
  have hdrain : t.drain = (t.due.map Entry.toOffence, t.rest) :=
    Table.drain_eq ht
  have hcalls : ∀ n, t.due.length ≤ n →
      t.handed (List.replicate n .next) = t.due.map Entry.toOffence
      ∧ t.useAll (List.replicate n .next) = t.rest := by
    intro n hn
    obtain ⟨hhanded, hleft⟩ := Table.handed_next ht hn
    rw [hdrain] at hhanded hleft
    exact ⟨hhanded, hleft⟩
  refine ⟨ht, ?_, hdrain, hcalls, t.next_rest, rfl, exists_run _ _, ?_, ?_⟩
  · have horder : ({} : Table).InOrder [] := rfl
    exact horder.useAll hempty uses
  · intro handed s hrun
    obtain ⟨hhanded, hstands⟩ := standsFor_empty.run hempty hrun
    refine ⟨hhanded, fun n more s' hn hmore => ?_⟩
    obtain ⟨hsame, hleft⟩ := hstands.run ht hmore
    rw [(hcalls n hn).1] at hsame
    rw [(hcalls n hn).2] at hleft
    obtain ⟨items, hperm, hentries, -⟩ := hleft.items
    exact ⟨hsame, hentries ▸ hperm.map _, hleft.total⟩
  · intro out u hnext later hlater o ho
    obtain ⟨hu, hgone⟩ := Table.get?_of_next ht hnext
    apply Table.entries_add_of_none
    rw [ho]
    exact Table.get?_useAll_of_none hu hgone hlater

/-- One attempt of a host. -/
def attemptOf (text : String) (time : Int) : Offence :=
  { source := Net.Address.parse text, time }

/-- Two attempts of one host and three of the next, which are handed out;
one of a third host and one more of the second; then one attempt is
enough for a ban. -/
def handedOutBetween : List Use :=
  [.step (.add (attemptOf "1.1.1.1" 0)),
    .step (.add (attemptOf "1.1.1.1" 1)),
    .step (.add { attemptOf "2.2.2.2" 2 with attempts := 3 }), .next,
    .step (.add (attemptOf "3.3.3.3" 3)),
    .step (.add (attemptOf "2.2.2.2" 4)), .maxRetry 1]

/-- The source that was handed out comes last, whatever the order of the
visits is. -/
theorem handed_out_source_comes_last :
    (∃ handed s more s', Run {} handedOutBetween handed s
        ∧ s.Run (List.replicate 4 .next) more s')
      ∧ ∀ handed s more s', Run {} handedOutBetween handed s →
        s.Run (List.replicate 4 .next) more s' →
        handed = [{ attemptOf "2.2.2.2" 2 with attempts := 3 }]
        ∧ more = [{ attemptOf "1.1.1.1" 1 with attempts := 2 },
          attemptOf "3.3.3.3" 3, attemptOf "2.2.2.2" 4]
        ∧ s'.items = [] ∧ s'.total = 7 := by
  obtain ⟨-, -, -, -, -, -, ⟨handed, s, hrun⟩, hruns, -⟩ :=
    due_are_handed_out_oldest_first handedOutBetween
  obtain ⟨more, s', hmore⟩ := exists_run s (List.replicate 4 .next)
  refine ⟨⟨handed, s, more, s', hrun, hmore⟩, ?_⟩
  intro handed s more s' hrun hmore
  obtain ⟨hhanded, hdrained⟩ := hruns handed s hrun
  obtain ⟨hsame, hleft, htotal⟩ :=
    hdrained 4 more s' (by decide +kernel) hmore
  refine ⟨?_, ?_, ?_, ?_⟩
  · rw [hhanded]
    decide +kernel
  · rw [hsame]
    decide +kernel
  · rw [show (Table.useAll {} handedOutBetween).rest.entries = [] by
      decide +kernel, List.perm_nil, List.map_eq_nil_iff] at hleft
    exact hleft
  · rw [htotal]
    decide +kernel

end Store

end Gatewatch.Offence
