/-
What the table of offences hands out when it is emptied of all that is
due.

Handing out takes the first entry that is due and forgets the entries of
its source. As long as no source has two entries (`Table.Unique`, which
every step keeps) this is the one entry that was found, so the entries
before and behind it stay as they are (`next_cases`). Repeated until
nothing is due, that splits the entries in two: those with attempts
enough are handed out in the order in which they stand, and the others
are left (`drain_eq`).
-/
import Gatewatch.Proofs.Offence.Window
import Mathlib.Data.List.Nodup

namespace Gatewatch.Offence.Table

open Net (Address)

variable {t : Table}

-- ============================================================ one call

/-- A step adds an offence when it is to add it. -/
theorem Step.eq_add {s : Step} {o : Offence} (h : s.added? = some o) :
    s = .add o := by
  cases s with
  | add o' => exact congrArg add (Option.some.inj h)
  | cleanup now => cases h
  | next => cases h

/-- Every step leaves no source with two entries. -/
theorem Unique.step (ht : t.Unique) (s : Step) : (t.step s).Unique := by
  cases hs : s.added? with
  | some o =>
      obtain rfl := Step.eq_add hs
      exact ht.add o
  | none =>
      obtain ⟨p, hp⟩ := t.step_eq_filter hs
      rw [hp]
      exact ht.sublist (List.filter_sublist.map _)

/-- An entry is listed when it is the one that is found for its
source. -/
theorem mem_entries_iff (ht : t.Unique) (e : Entry) :
    e ∈ t.entries ↔ t.get? e.source = some e := by
  refine ⟨fun he => ?_, List.mem_of_find?_eq_some⟩
  have hmem : e ∈ t.entries.filter (·.source == e.source) := by
    simp [he]
  rw [Keyed.filter_eq_toList ht] at hmem
  exact Option.mem_toList.1 hmem

/-- Where the entry of a source stands, the others have other sources. -/
theorem filter_source_of_split {pre post : List Entry} {e : Entry}
    (h : ((pre ++ e :: post).map Entry.source).Nodup) :
    (pre ++ e :: post).filter (·.source != e.source) = pre ++ post := by
  rw [List.map_append, List.map_cons, List.nodup_middle,
    List.nodup_cons] at h
  have hother : ∀ x ∈ pre ++ post, (x.source != e.source) = true := by
    intro x hx
    rw [bne_iff_ne]
    rintro hsame
    apply h.1
    rw [← List.map_append, ← hsame]
    exact List.mem_map_of_mem hx
  rw [List.filter_append, List.filter_cons_of_neg (by simp),
    ← List.filter_append]
  exact List.filter_eq_self.2 hother

/-- An entry that is taken from its place leaves no source with two. -/
theorem Unique.split {pre post : List Entry} {e : Entry} (ht : t.Unique)
    (hsplit : t.entries = pre ++ e :: post) :
    ({ t with entries := pre ++ post } : Table).Unique := by
  refine ht.sublist (List.Sublist.map _ ?_)
  rw [hsplit]
  exact (List.sublist_cons_self e post).append_left pre

/-- Handing out finds nothing that is due, or takes the first entry that
is, and leaves those before and behind it. -/
theorem next_cases (ht : t.Unique) :
    (t.next = none ∧ ∀ e ∈ t.entries, t.isDue e = false)
      ∨ ∃ pre e post, t.entries = pre ++ e :: post
        ∧ (∀ x ∈ pre, t.isDue x = false) ∧ t.isDue e = true
        ∧ t.next = some (e.toOffence, { t with entries := pre ++ post }) := by
  unfold next
  cases hfind : t.entries.find? t.isDue with
  | none =>
      left
      refine ⟨rfl, fun e he => ?_⟩
      simpa using List.find?_eq_none.1 hfind e he
  | some e =>
      right
      obtain ⟨hdue, pre, post, hsplit, hpre⟩ :=
        List.find?_eq_some_iff_append.1 hfind
      refine ⟨pre, e, post, hsplit, fun x hx => by simpa using hpre x hx,
        hdue, ?_⟩
      unfold Unique at ht
      rw [hsplit] at ht
      simp only [hsplit, filter_source_of_split ht]

-- ============================================================ all calls

/-- The entries with attempts enough. -/
def due (t : Table) : List Entry := t.entries.filter t.isDue

/-- The table without the entries that have attempts enough. -/
def rest (t : Table) : Table :=
  { t with entries := t.entries.filter fun e => !t.isDue e }

/-- Taking away some entries leaves no source with two. -/
theorem Unique.rest (ht : t.Unique) : t.rest.Unique :=
  ht.sublist (List.filter_sublist.map _)

/-- Nothing that is due is left. -/
theorem next_rest (t : Table) : t.rest.next = none := by
  have hnone : t.rest.entries.find? t.rest.isDue = none := by
    rw [List.find?_eq_none]
    intro e he
    have hkept := (List.mem_filter.1 he).2
    rw [Bool.not_eq_true'] at hkept
    rw [show t.rest.isDue e = t.isDue e from rfl, hkept]
    simp
  unfold next
  rw [hnone]

/-- Where nothing is due, nothing is taken away. -/
theorem due_of_none (h : ∀ e ∈ t.entries, t.isDue e = false) :
    t.due = [] ∧ t.rest = t := by
  constructor
  · exact List.filter_eq_nil_iff.2 fun e he => by simp [h e he]
  · unfold rest
    rw [List.filter_eq_self.2 fun e he => by simp [h e he]]

/-- Without its first entry that is due, a table has one entry less that
is due, and as many that are not. -/
theorem due_of_split {pre post : List Entry} {e : Entry}
    (hsplit : t.entries = pre ++ e :: post)
    (hpre : ∀ x ∈ pre, t.isDue x = false) (hdue : t.isDue e = true) :
    t.due = e :: ({ t with entries := pre ++ post } : Table).due
      ∧ ({ t with entries := pre ++ post } : Table).rest = t.rest := by
  have hnone : pre.filter t.isDue = [] :=
    List.filter_eq_nil_iff.2 fun x hx => by simp [hpre x hx]
  constructor
  · show t.entries.filter t.isDue = e :: (pre ++ post).filter t.isDue
    rw [hsplit, List.filter_append, List.filter_append, hnone,
      List.filter_cons_of_pos hdue]
    rfl
  · show ({ t with entries := (pre ++ post).filter fun e => !t.isDue e }
      : Table) = t.rest
    unfold rest
    rw [hsplit, List.filter_append, List.filter_append,
      List.filter_cons_of_neg (by simp [hdue])]

/-- What is handed out are the entries with attempts enough, in the order
in which they stand; the others are left. -/
theorem drain_eq (ht : t.Unique) :
    t.drain = (t.due.map Entry.toOffence, t.rest) := by
  fun_induction drain t with
  | case1 t hnext =>
      obtain ⟨-, hnone⟩ | ⟨pre, e, post, -, -, -, hsome⟩ := next_cases ht
      · obtain ⟨hdue, hrest⟩ := due_of_none hnone
        rw [hdue, hrest]
        rfl
      · rw [hnext] at hsome
        cases hsome
  | case2 t o u hnext ih =>
      obtain ⟨hnone, -⟩ | ⟨pre, e, post, hsplit, hpre, hdue, hsome⟩ :=
        next_cases ht
      · rw [hnext] at hnone
        cases hnone
      · rw [hnext] at hsome
        injection hsome with hsome
        injection hsome with ho hu
        have hunique : u.Unique := hu ▸ ht.split hsplit
        obtain ⟨hmore, hrest⟩ := due_of_split hsplit hpre hdue
        rw [ih hunique, ho, hu, hmore, hrest]
        rfl

end Gatewatch.Offence.Table
