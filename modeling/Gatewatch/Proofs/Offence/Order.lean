/-
The order in which the table of offences hands its entries out, told from
its history.

# Uses

A table is used by adding offences, forgetting stale entries and handing
entries out, while the number of attempts that a ban takes and the length
of the window may be set at any time (`Table.Use`). What it hands out on
the way is told beside it (`Table.handed`).

# Creation

An entry is made by an offence whose source has none. So a history tells
the sources whose entries were made, one after the other (`Table.made`);
a source comes more than once if its entry was removed and made again,
and then only the last time counts. The entries of a table stand in this
order (`InOrder.useAll`): counting in an entry moves none, a new entry
goes behind all others, and removing entries keeps the others in place.
-/
import Gatewatch.Proofs.Offence.Draining
import Mathlib.Data.List.Dedup

namespace Gatewatch.Offence.Table

open Net (Address)

variable {t : Table}

-- ================================================================ uses

/-- One use of a table whose settings may change. -/
inductive Use where
  | step (s : Step)
  | maxRetry (n : Nat)
  | findTime (secs : Int)

/-- The use that hands an entry out. -/
def Use.next : Use := .step .next

/-- The table after a use. -/
def use (t : Table) : Use → Table
  | .step s => t.step s
  | .maxRetry n => { t with maxRetry := n }
  | .findTime secs => { t with findTime := secs }

/-- What a use hands out. -/
def handed? (t : Table) : Use → Option Offence
  | .step .next => t.next.map Prod.fst
  | _ => none

/-- The table after uses. -/
def useAll (t : Table) (uses : List Use) : Table := uses.foldl use t

/-- What uses hand out, in order. -/
def handed (t : Table) : List Use → List Offence
  | [] => []
  | u :: rest => (t.handed? u).toList ++ handed (t.use u) rest

/-- No use gives a source two entries. -/
theorem Unique.use (ht : t.Unique) (u : Use) : (t.use u).Unique := by
  cases u with
  | step s => exact ht.step s
  | maxRetry n => exact ht
  | findTime secs => exact ht

theorem Unique.useAll (ht : t.Unique) (uses : List Use) :
    (t.useAll uses).Unique := by
  induction uses generalizing t with
  | nil => exact ht
  | cons u rest ih => exact ih (ht.use u)

/-- Calls that hand out, as many as there are entries due or more, hand
out all of them. -/
theorem handed_next (ht : t.Unique) {n : Nat} (hn : t.due.length ≤ n) :
    t.handed (List.replicate n .next) = t.drain.1
      ∧ t.useAll (List.replicate n .next) = t.drain.2 := by
  rw [drain_eq ht]
  induction n generalizing t with
  | zero =>
      have hdue : t.due = [] := by
        apply List.length_eq_zero_iff.1
        omega
      have hnone : ∀ e ∈ t.entries, t.isDue e = false := by
        intro e he
        simpa using List.filter_eq_nil_iff.1 hdue e he
      rw [hdue, (due_of_none hnone).2]
      exact ⟨rfl, rfl⟩
  | succ n ih =>
      rw [List.replicate_succ]
      show (t.next.map Prod.fst).toList
          ++ (t.step .next).handed (List.replicate n .next) = _
        ∧ (t.step .next).useAll (List.replicate n .next) = _
      unfold step
      obtain ⟨hnext, hnone⟩ | ⟨pre, e, post, hsplit, hpre, hdue, hnext⟩ :=
        next_cases ht
      · rw [hnext]
        apply ih ht
        rw [(due_of_none hnone).1]
        simp
      · obtain ⟨hmore, hrest⟩ := due_of_split hsplit hpre hdue
        rw [hmore, List.length_cons] at hn
        obtain ⟨hhanded, hleft⟩ := ih (ht.split hsplit) (by omega)
        rw [hnext, hmore, ← hrest]
        exact ⟨congrArg (e.toOffence :: ·) hhanded, hleft⟩

-- ============================================================= presence

/-- A source has an entry when the table lists one. -/
theorem isSome_get?_iff (t : Table) (source : Address) :
    (t.get? source).isSome = true ↔ source ∈ t.entries.map Entry.source := by
  unfold get?
  rw [List.find?_isSome, List.mem_map]
  simp

/-- An offence of a source without an entry is counted in a new one,
behind the others. -/
theorem countIn_of_not_mem (window : Int) {o : Offence}
    {entries : List Entry} (h : o.source ∉ entries.map Entry.source) :
    countIn window o entries = entries ++ [(Entry.start o).count o] := by
  induction entries with
  | nil => rfl
  | cons e rest ih =>
      rw [List.map_cons, List.mem_cons, not_or] at h
      rw [countIn, if_neg (Ne.symm h.1), ih h.2, List.cons_append]

/-- An offence of a source with an entry is counted in it, in its
place. -/
theorem countIn_of_mem (window : Int) {o : Offence} {entries : List Entry}
    (hnd : (entries.map Entry.source).Nodup)
    (h : o.source ∈ entries.map Entry.source) :
    countIn window o entries = entries.map fun e =>
      if e.source = o.source then (e.renew window o).count o else e := by
  induction entries with
  | nil => cases h
  | cons e rest ih =>
      rw [List.map_cons, List.nodup_cons] at hnd
      rw [countIn, List.map_cons]
      by_cases he : e.source = o.source
      · have hrest : ∀ x ∈ rest, x.source ≠ o.source := by
          intro x hx hsame
          apply hnd.1
          rw [he, ← hsame]
          exact List.mem_map_of_mem hx
        rw [if_pos he, if_pos he]
        congr 1
        rw [List.map_congr_left fun x hx => if_neg (hrest x hx)]
        exact (List.map_id rest).symm
      · rw [List.map_cons, List.mem_cons] at h
        rw [if_neg he, if_neg he, ih hnd.2 (h.resolve_left (Ne.symm he))]

/-- An offence of a source without an entry makes one, behind the
others. -/
theorem entries_add_of_none {o : Offence} (h : t.get? o.source = none) :
    (t.add o).entries = t.entries ++ [(Entry.start o).count o] := by
  apply countIn_of_not_mem
  rw [← isSome_get?_iff, h]
  simp

/-- An offence of a source with an entry is counted in it, in its
place. -/
theorem entries_add_of_mem (ht : t.Unique) {o : Offence}
    (h : o.source ∈ t.entries.map Entry.source) :
    (t.add o).entries = t.entries.map fun e =>
      if e.source = o.source then (e.renew t.findTime o).count o else e :=
  countIn_of_mem t.findTime ht h

/-- An offence of a source with an entry moves none. -/
theorem sources_add_of_isSome {o : Offence}
    (h : (t.get? o.source).isSome = true) :
    (t.add o).entries.map Entry.source = t.entries.map Entry.source := by
  show (countIn t.findTime o t.entries).map Entry.source = _
  rw [sources_countIn, if_pos ((isSome_get?_iff _ _).1 h)]

/-- After an offence its source has an entry, and the others have one if
they had one. -/
theorem isSome_get?_add (t : Table) (o : Offence) (source : Address) :
    ((t.add o).get? source).isSome
      = ((t.get? source).isSome || o.source == source) := by
  rw [get?_add]
  by_cases ho : o.source = source
  · simp [ho]
  · simp [ho]

-- ============================================================= creation

/-- The source whose entry a use makes, if it makes one. -/
def makes? (t : Table) : Use → Option Address
  | .step (.add o) => if (t.get? o.source).isSome then none else some o.source
  | _ => none

/-- The sources whose entries uses make, one after the other. -/
def made (t : Table) : List Use → List Address
  | [] => []
  | u :: rest => (t.makes? u).toList ++ made (t.use u) rest

/-- Where only the last time counts, what comes once more comes last. -/
theorem dedup_concat (l : List Address) (a : Address) :
    (l ++ [a]).dedup = l.dedup.filter (· ≠ a) ++ [a] := by
  induction l with
  | nil => simp
  | cons b rest ih =>
      rw [List.cons_append]
      by_cases hb : b ∈ rest
      · rw [List.dedup_cons_of_mem (List.mem_append_left _ hb),
          List.dedup_cons_of_mem hb, ih]
      · rw [List.dedup_cons_of_notMem hb]
        by_cases hab : b = a
        · rw [List.dedup_cons_of_mem (by simp [hab]),
            List.filter_cons_of_neg (by simp [hab]), ih]
        · rw [List.dedup_cons_of_notMem (by simp [hb, hab]),
            List.filter_cons_of_pos (by simp [hab]), ih, List.cons_append]

/-- The entries stand in the order in which they were made: they are
those sources of `past` that have an entry, each where it comes last. -/
def InOrder (t : Table) (past : List Address) : Prop :=
  t.entries.map Entry.source
    = past.dedup.filter fun source => (t.get? source).isSome

namespace InOrder

variable {past : List Address}

/-- Entries that are removed leave the others in order. -/
theorem filter (ht : t.Unique) (h : t.InOrder past) (p : Entry → Bool) :
    ({ t with entries := t.entries.filter p } : Table).InOrder past := by
  unfold InOrder at h ⊢
  -- an entry passes the test when its source still has one
  have hkept : t.entries.filter p = t.entries.filter
      ((fun source => ((t.get? source).filter p).isSome)
        ∘ Entry.source) := by
    apply List.filter_congr
    intro e he
    show p e = ((t.get? e.source).filter p).isSome
    rw [(mem_entries_iff ht e).1 he, Option.filter_some]
    cases p e <;> rfl
  have hsome : ∀ source,
      ((({ t with entries := t.entries.filter p } : Table).get?
        source).isSome)
      = (((t.get? source).filter p).isSome && (t.get? source).isSome) := by
    intro source
    rw [get?_filter ht]
    cases t.get? source with
    | none => rfl
    | some e => simp
  simp only [hsome]
  rw [← List.filter_filter, ← h, List.filter_map, ← hkept]

/-- A new entry comes last. -/
theorem make (h : t.InOrder past) {o : Offence}
    (hnone : t.get? o.source = none) :
    (t.add o).InOrder (past ++ [o.source]) := by
  unfold InOrder at h ⊢
  have hothers : past.dedup.filter (fun source => (t.get? source).isSome)
      = (past.dedup.filter (· ≠ o.source)).filter fun source =>
        ((t.add o).get? source).isSome := by
    rw [List.filter_filter]
    apply List.filter_congr
    intro source _
    rw [isSome_get?_add]
    by_cases hs : source = o.source
    · simp [hs, hnone]
    · simp [hs, Ne.symm hs]
  rw [entries_add_of_none hnone, List.map_append, h, dedup_concat,
    List.filter_append, hothers, List.filter_cons_of_pos]
  · rfl
  · simp [isSome_get?_add]

/-- To count in an entry moves none. -/
theorem count (h : t.InOrder past) {o : Offence}
    (hsome : (t.get? o.source).isSome = true) :
    (t.add o).InOrder past := by
  unfold InOrder at h ⊢
  rw [sources_add_of_isSome hsome, h]
  apply List.filter_congr
  intro source _
  rw [isSome_get?_add]
  by_cases hs : o.source = source
  · simp [← hs, hsome]
  · simp [hs]

/-- Every use keeps the entries in the order in which they were made. -/
theorem use (ht : t.Unique) (h : t.InOrder past) (u : Use) :
    (t.use u).InOrder (past ++ (t.makes? u).toList) := by
  -- all but adding drops the entries that fail a test, or none
  have hfilter : ∀ s : Step, s.added? = none →
      (t.step s).InOrder (past ++ []) := by
    intro s hs
    obtain ⟨p, hp⟩ := t.step_eq_filter hs
    rw [hp, List.append_nil]
    exact h.filter ht p
  cases u with
  | maxRetry n | findTime secs =>
      show InOrder _ (past ++ [])
      rw [List.append_nil]
      exact h
  | step s =>
      cases s with
      | cleanup now => exact hfilter (.cleanup now) rfl
      | next => exact hfilter .next rfl
      | add o =>
          show (t.add o).InOrder (past ++ (if (t.get? o.source).isSome then
            none else some o.source).toList)
          cases hget : t.get? o.source with
          | none => exact h.make hget
          | some e =>
              rw [Option.isSome_some, if_pos rfl, Option.toList_none,
                List.append_nil]
              exact h.count (by rw [hget]; rfl)

/-- Every history keeps the entries in the order in which they were
made. -/
theorem useAll (ht : t.Unique) (h : t.InOrder past) (uses : List Use) :
    (t.useAll uses).InOrder (past ++ t.made uses) := by
  induction uses generalizing t past with
  | nil =>
      rw [made, List.append_nil]
      exact h
  | cons u rest ih =>
      rw [made, ← List.append_assoc]
      exact ih (ht.use u) (h.use ht u)

end InOrder

/-- The source whose entry was handed out has no entry. -/
theorem get?_of_next (ht : t.Unique) {out : Offence} {u : Table}
    (h : t.next = some (out, u)) :
    u.Unique ∧ u.get? out.source = none := by
  obtain ⟨hnone, -⟩ | ⟨pre, e, post, hsplit, -, -, hsome⟩ := next_cases ht
  · rw [h] at hnone
    cases hnone
  · rw [h] at hsome
    injection hsome with hsome
    injection hsome with hout hu
    refine ⟨hu ▸ ht.split hsplit, ?_⟩
    unfold Unique at ht
    rw [hsplit, List.map_append, List.map_cons, List.nodup_middle,
      List.nodup_cons, ← List.map_append] at ht
    rw [← Option.not_isSome_iff_eq_none, isSome_get?_iff, hu, hout]
    exact ht.1

/-- A source without an entry has none until an offence of it is
added. -/
theorem get?_useAll_of_none {source : Address}
    (ht : t.Unique) (h : t.get? source = none) {uses : List Use}
    (hnever : ∀ o, .step (.add o) ∈ uses → o.source ≠ source) :
    (t.useAll uses).get? source = none := by
  induction uses generalizing t with
  | nil => exact h
  | cons u rest ih =>
      apply ih (ht.use u) ?_ fun o ho =>
        hnever o (List.mem_cons_of_mem _ ho)
      cases u with
      | maxRetry n | findTime secs => exact h
      | step s =>
          show (t.step s).get? source = none
          cases hs : s.added? with
          | none =>
              obtain ⟨p, hp⟩ := t.step_eq_filter hs
              rw [hp, get?_filter ht, h]
              rfl
          | some o =>
              obtain rfl := Step.eq_add hs
              show (t.add o).get? source = none
              rw [get?_add, if_neg (hnever o (List.mem_cons_self ..)), h]

end Gatewatch.Offence.Table
