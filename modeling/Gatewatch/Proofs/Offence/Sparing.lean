/-
What the table of offences has of one source, whatever is done for others.

# One source

The entries of a source (`entriesOf`) are what a use of the table can be
told by: counting an offence of another source leaves them, counting one
of the source changes the first of them, and handing out leaves none or
all. So when everything due is handed out, a source with one entry that is
due comes out once, and one without an entry does not
(`drain_of_due`, `drain_of_nil`).

# Uses that spare it

Uses that count no failure of the source never add to its entries. They
take them away only by handing them out, which needs one that is due, or
by a cleanup (`Spared`).
-/
import Gatewatch.Proofs.Offence.Window

namespace Gatewatch.Offence.Table

open Net (Address)

variable {t u : Table} {o : Offence} {a : Address} {e : Entry}

-- ================================================= entries of a source

/-- The entries of a source. -/
def entriesOf (t : Table) (a : Address) : List Entry :=
  t.entries.filter (·.source == a)

/-- A source without an entry. -/
theorem get?_eq_none_iff : t.get? a = none ↔ t.entriesOf a = [] := by
  unfold get? entriesOf
  rw [List.find?_eq_none, List.filter_eq_nil_iff]

/-- An offence is counted for no other source. -/
theorem entriesOf_add_of_ne (ho : o.source ≠ a) :
    (t.add o).entriesOf a = t.entriesOf a := by
  show (countIn t.findTime o t.entries).filter (·.source == a)
    = t.entries.filter (·.source == a)
  induction t.entries with
  | nil => simp [countIn, ho]
  | cons e rest ih =>
      by_cases he : e.source = o.source
      · rw [countIn, if_pos he, List.filter_cons_of_neg (by simpa [he]),
          List.filter_cons_of_neg (by simpa [he])]
      · rw [countIn, if_neg he, List.filter_cons, List.filter_cons, ih]

/-- An offence of a source without an entry begins one. -/
theorem entriesOf_add_of_nil (ho : o.source = a) (h : t.entriesOf a = []) :
    (t.add o).entriesOf a = [(Entry.start o).count o] := by
  have hnone : ∀ e ∈ t.entries, ¬ (e.source == a) = true :=
    List.filter_eq_nil_iff.1 h
  show (countIn t.findTime o t.entries).filter (·.source == a) = _
  generalize t.entries = entries at hnone
  induction entries with
  | nil => simp [countIn, ho]
  | cons e rest ih =>
      obtain ⟨he, hrest⟩ := List.forall_mem_cons.1 hnone
      have hne : e.source ≠ a := by simpa using he
      rw [countIn, if_neg (by rwa [ho]),
        List.filter_cons_of_neg (by simpa using hne), ih hrest]

/-- An offence of a source with one entry is counted in it. -/
theorem entriesOf_add_of_single (ho : o.source = a)
    (h : t.entriesOf a = [e]) :
    (t.add o).entriesOf a = [(e.renew t.findTime o).count o] := by
  have hentries : t.entries.filter (·.source == a) = [e] := h
  show (countIn t.findTime o t.entries).filter (·.source == a) = _
  generalize t.entries = entries at hentries
  induction entries with
  | nil => cases hentries
  | cons x rest ih =>
      by_cases hx : x.source = a
      · rw [List.filter_cons_of_pos (by simpa using hx)] at hentries
        obtain ⟨rfl, hrest⟩ := List.cons_eq_cons.1 hentries
        rw [countIn, if_pos (hx.trans ho.symm),
          List.filter_cons_of_pos (by simpa using hx), hrest]
      · rw [List.filter_cons_of_neg (by simpa using hx)] at hentries
        rw [countIn, if_neg (by rwa [ho]),
          List.filter_cons_of_neg (by simpa using hx), ih hentries]

-- ========================================================== handing out

/-- What is handed out is an entry with attempts enough, and its source
has none afterwards. -/
theorem next_eq_some (h : t.next = some (o, u)) :
    ∃ e ∈ t.entriesOf o.source, t.isDue e = true ∧ o = e.toOffence
      ∧ u = { t with entries := t.entries.filter (·.source != o.source) } := by
  unfold next at h
  split at h
  case h_1 => cases h
  case h_2 e hfind =>
    obtain ⟨rfl, rfl⟩ := Prod.mk.inj (Option.some.inj h)
    exact ⟨e, List.mem_filter.2 ⟨List.mem_of_find?_eq_some hfind,
      beq_self_eq_true _⟩, List.find?_some hfind, rfl, rfl⟩

/-- What is handed out are attempts enough. -/
theorem le_attempts_of_next (h : t.next = some (o, u)) :
    t.maxRetry ≤ o.attempts := by
  obtain ⟨e, -, hdue, rfl, -⟩ := next_eq_some h
  exact decide_eq_true_iff.1 hdue

/-- Handing out leaves the entries of other sources. -/
theorem entriesOf_next (h : t.next = some (o, u)) :
    u.entriesOf a = if o.source = a then [] else t.entriesOf a := by
  obtain ⟨-, -, -, -, rfl⟩ := next_eq_some h
  unfold entriesOf
  rw [List.filter_filter]
  split
  case isTrue ha =>
    rw [List.filter_eq_nil_iff]
    intro e _
    simp [ha]
  case isFalse ha =>
    refine List.filter_congr fun e _ => ?_
    by_cases he : e.source = a
    · simp [he, Ne.symm ha]
    · simp [he]

/-- A source without an entry has none after all that is due was handed
out, and nothing of it was. -/
theorem drain_of_nil (h : t.entriesOf a = []) :
    t.drain.1.filter (·.source == a) = [] ∧ t.drain.2.entriesOf a = [] := by
  fun_induction drain t with
  | case1 t hnext => exact ⟨rfl, h⟩
  | case2 t o u hnext ih =>
      obtain ⟨e, he, -⟩ := next_eq_some hnext
      have ha : o.source ≠ a := by
        rintro rfl
        rw [h] at he
        cases he
      rw [List.filter_cons_of_neg (by simpa using ha)]
      exact ih (by rw [entriesOf_next hnext, if_neg ha, h])

/-- A source whose only entry is due is handed out once. -/
theorem drain_of_due (h : t.entriesOf a = [e]) (hdue : t.isDue e = true) :
    t.drain.1.filter (·.source == a) = [e.toOffence]
      ∧ t.drain.2.entriesOf a = [] := by
  have hmem : e ∈ t.entriesOf a := h ▸ List.mem_singleton_self e
  obtain ⟨hentry, hsource⟩ := List.mem_filter.1 hmem
  fun_induction drain t with
  | case1 t hnext =>
      unfold next at hnext
      split at hnext
      case h_1 hfind =>
        exact absurd hdue (List.find?_eq_none.1 hfind e hentry)
      case h_2 => cases hnext
  | case2 t o u hnext ih =>
      obtain ⟨x, hx, -, ho, hu⟩ := next_eq_some hnext
      by_cases ha : o.source = a
      · rw [ha, h] at hx
        obtain rfl := List.mem_singleton.1 hx
        obtain ⟨hout, hleft⟩ : u.drain.1.filter (·.source == a) = []
            ∧ u.drain.2.entriesOf a = [] :=
          drain_of_nil (by rw [entriesOf_next hnext, if_pos ha])
        rw [List.filter_cons_of_pos (by simpa using ha), hout, ho]
        exact ⟨rfl, hleft⟩
      · have hkept : u.entriesOf a = [e] := by
          rw [entriesOf_next hnext, if_neg ha, h]
        rw [List.filter_cons_of_neg (by simpa using ha)]
        have hmem' : e ∈ u.entriesOf a := hkept ▸ List.mem_singleton_self e
        exact ih hkept (by rw [hu]; exact hdue) hmem'
          (List.mem_filter.1 hmem').1

/-- What was handed out was so by a table that asks for as many attempts,
and its source has no entry afterwards. -/
theorem of_mem_drain (h : o ∈ t.drain.1) :
    (∃ u v : Table, u.maxRetry = t.maxRetry ∧ u.next = some (o, v))
      ∧ t.drain.2.entriesOf o.source = [] := by
  fun_induction drain t with
  | case1 t hnext => cases h
  | case2 t x u hnext ih =>
      obtain ⟨-, -, -, -, hu⟩ := next_eq_some hnext
      have hretry : u.maxRetry = t.maxRetry := by rw [hu]
      rcases List.mem_cons.1 h with rfl | h
      · refine ⟨⟨t, u, rfl, hnext⟩, (drain_of_nil ?_).2⟩
        rw [entriesOf_next hnext, if_pos rfl]
      · obtain ⟨⟨u', v, hu', hv⟩, hleft⟩ := ih h
        exact ⟨⟨u', v, hu'.trans hretry, hv⟩, hleft⟩

/-- Handing out leaves the settings. -/
theorem settings_drain (t : Table) :
    t.drain.2.maxRetry = t.maxRetry ∧ t.drain.2.findTime = t.findTime := by
  fun_induction drain t with
  | case1 t hnext => exact ⟨rfl, rfl⟩
  | case2 t o u hnext ih =>
      obtain ⟨-, -, -, -, rfl⟩ := next_eq_some hnext
      exact ih

-- ============================================================= sparing

/-- A use of the table that counts no failure of a source, and cleans up
only when it may. -/
def Step.Spares (a : Address) (clean : Int → Prop) : Step → Prop
  | .add o => o.source ≠ a
  | .cleanup now => clean now
  | .next => True

/-- What a table has of a source after uses that spare it: entries may be
gone, but only those that were due, or that a cleanup may forget. -/
structure Spared (a : Address) (clean : Int → Prop) (t u : Table) :
    Prop where
  maxRetry : u.maxRetry = t.maxRetry
  findTime : u.findTime = t.findTime
  subset : ∀ e ∈ u.entriesOf a, e ∈ t.entriesOf a
  same : (∀ e ∈ t.entriesOf a, t.isDue e = false
      ∧ ∀ now, clean now → horizon now t.findTime ≤ e.lastSeen) →
    u.entriesOf a = t.entriesOf a

namespace Spared

variable {clean : Int → Prop} {v : Table}

theorem refl (t : Table) : t.Spared a clean t :=
  ⟨rfl, rfl, fun _ h => h, fun _ => rfl⟩

theorem trans (h : t.Spared a clean u) (h' : u.Spared a clean v) :
    t.Spared a clean v where
  maxRetry := h'.maxRetry.trans h.maxRetry
  findTime := h'.findTime.trans h.findTime
  subset e he := h.subset e (h'.subset e he)
  same hall := by
    have hu := h.same hall
    rw [← hu]
    refine h'.same fun e he => ?_
    rw [h.findTime]
    obtain ⟨hdue, hclean⟩ := hall e (hu ▸ he)
    refine ⟨?_, hclean⟩
    unfold isDue at hdue ⊢
    rw [h.maxRetry]
    exact hdue

/-- An offence of another source. -/
theorem add (ho : o.source ≠ a) : t.Spared a clean (t.add o) where
  maxRetry := rfl
  findTime := rfl
  subset e he := by rwa [entriesOf_add_of_ne ho] at he
  same _ := entriesOf_add_of_ne ho

/-- A cleanup, when it may be. -/
theorem cleanup {now : Int} (hnow : clean now) :
    t.Spared a clean (t.cleanup now) where
  maxRetry := rfl
  findTime := rfl
  subset e he := by
    obtain ⟨hmem, hsource⟩ := List.mem_filter.1 he
    exact List.mem_filter.2 ⟨(List.mem_filter.1 hmem).1, hsource⟩
  same hall := by
    show ((t.entries.filter _).filter _) = t.entries.filter _
    rw [List.filter_filter]
    refine List.filter_congr fun e he => ?_
    by_cases hsource : e.source = a
    · have hof : e ∈ t.entriesOf a :=
        List.mem_filter.2 ⟨he, by simpa using hsource⟩
      simp [hsource, (hall e hof).2 now hnow]
    · simp [hsource]

/-- Handing out what is due. -/
theorem next (t : Table) : t.Spared a clean (t.step .next) := by
  unfold Table.step
  cases hnext : t.next with
  | none => exact .refl t
  | some out =>
      obtain ⟨o, u⟩ := out
      obtain ⟨e, he, hdue, -, hu⟩ := next_eq_some hnext
      refine ⟨by rw [hu], by rw [hu], fun x hx => ?_, fun hall => ?_⟩
      · rw [entriesOf_next hnext] at hx
        split at hx
        · cases hx
        · exact hx
      · rw [entriesOf_next hnext, if_neg]
        rintro rfl
        rw [(hall e he).1] at hdue
        cases hdue

/-- Every use that spares a source. -/
theorem step {s : Step} (hs : s.Spares a clean) :
    t.Spared a clean (t.step s) := by
  cases s with
  | add o => exact .add hs
  | cleanup now => exact .cleanup hs
  | next => exact .next t

end Spared

end Gatewatch.Offence.Table
