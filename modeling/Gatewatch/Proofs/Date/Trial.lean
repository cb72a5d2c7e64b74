/-
What a detector does in one go.

# Trying

A template reads a line when it matches and the match stands for an
instant (`Template.reading?`). Of the templates of a detector the first
one that reads the line supplies the date, and it alone gains a hit
(`detect_of_reading`). When none does, the detector stays as it is
(`detect_of_no_reading`).

# Sorting

Sorting is stable: those with more hits come first, and those with as
many hits keep their order (`pairwise_byHits`, `filter_byHits`). There is
only one such order (`eq_of_filter_eq`), so it does not matter by which
algorithm it is reached (`byHits_eq_mergeSort`).
-/
import Gatewatch.Date.Detector
import Mathlib.Data.List.Induction
import Mathlib.Data.List.Perm.Basic

namespace Gatewatch.Date

-- =========================================================== templates

namespace Template

/-- The text that a template takes for a date, and the instant, if it
matches and the match stands for one. -/
def reading? (t : Template) (line : List Char) (zone now : Int) :
    Option (Pattern.Span × Int) :=
  (t.pattern.find line).bind fun m =>
    (t.time? m line zone now).value.map (m.span, ·)

/-- A template that has supplied one more date. -/
def hit (t : Template) : Template := { t with hits := t.hits + 1 }

/-- A template as it was when it joined. -/
def fresh (t : Template) : Template := { t with hits := 0 }

@[simp] theorem source_fresh (t : Template) : t.fresh.source = t.source := rfl

/-- Hits make no difference to what is read. -/
@[simp] theorem reading?_fresh (t : Template) (line : List Char)
    (zone now : Int) :
    t.fresh.reading? line zone now = t.reading? line zone now := rfl

end Template

namespace Detector

-- ============================================================== trying

section Trying

variable {line : List Char} {zone now : Int} {t : Template}
  {before rest : List Template} {span : Pattern.Span} {time : Int}

/-- A template that does not read the line is passed over. -/
theorem attempt_of_none (ht : t.reading? line zone now = none)
    (first : Option Pattern.Span) (rest : List Template) :
    ∃ first', (attempt line zone now first (t :: rest)).value
      = { (attempt line zone now first' rest).value with
          templates :=
            t :: (attempt line zone now first' rest).value.templates } := by
  unfold Template.reading? at ht
  rw [attempt]
  cases hfind : t.pattern.find line with
  | none => exact ⟨first, rfl⟩
  | some m =>
      rw [hfind, Option.bind_some, Option.map_eq_none_iff] at ht
      refine ⟨first <|> some m.span, ?_⟩
      dsimp only
      rw [Noted.value_bind, ht]
      rfl

/-- One that reads it supplies the date. -/
theorem attempt_of_some (ht : t.reading? line zone now = some (span, time))
    (first : Option Pattern.Span) (rest : List Template) :
    (attempt line zone now first (t :: rest)).value
      = ⟨t.hit :: rest, some span, some time⟩ := by
  obtain ⟨m, hfind, hm⟩ := Option.bind_eq_some_iff.1 ht
  obtain ⟨time', htime, heq⟩ := Option.map_eq_some_iff.1 hm
  injection heq with hspan htime'
  rw [attempt, hfind]
  dsimp only
  rw [Noted.value_bind, htime, hspan, htime']
  rfl

theorem attempt_of_reading
    (hbefore : ∀ u ∈ before, u.reading? line zone now = none)
    (ht : t.reading? line zone now = some (span, time))
    (first : Option Pattern.Span) :
    (attempt line zone now first (before ++ t :: rest)).value
      = ⟨before ++ t.hit :: rest, some span, some time⟩ := by
  induction before generalizing first with
  | nil => exact attempt_of_some ht first rest
  | cons u before ih =>
      obtain ⟨first', hskip⟩ := attempt_of_none
        (hbefore u List.mem_cons_self) first (before ++ t :: rest)
      rw [List.cons_append, hskip,
        ih (fun v hv => hbefore v (List.mem_cons_of_mem u hv))]
      rfl

theorem attempt_of_no_reading {ts : List Template}
    (h : ∀ t ∈ ts, t.reading? line zone now = none)
    (first : Option Pattern.Span) :
    ∃ first', (attempt line zone now first ts).value
      = ⟨ts, first', none⟩ := by
  induction ts generalizing first with
  | nil => exact ⟨first, rfl⟩
  | cons t ts ih =>
      obtain ⟨first', hskip⟩ :=
        attempt_of_none (h t List.mem_cons_self) first ts
      obtain ⟨first'', hmore⟩ :=
        ih (fun u hu => h u (List.mem_cons_of_mem t hu)) first'
      exact ⟨first'', by rw [hskip, hmore]⟩

variable {d : Detector}

/-- The first template that reads a line supplies the date, and gains a
hit. -/
theorem detect_of_reading (hsplit : d.templates = before ++ t :: rest)
    (hbefore : ∀ u ∈ before, u.reading? line d.zone now = none)
    (ht : t.reading? line d.zone now = some (span, time)) :
    (d.detect line now).value
      = ({ d with templates := before ++ t.hit :: rest, unsorted := true },
        some ⟨span, some time⟩) := by
  unfold detect
  rw [Noted.value_bind, hsplit, attempt_of_reading hbefore ht none]
  simp

/-- When no template reads it, there is no date, and nothing changes. -/
theorem detect_of_no_reading
    (h : ∀ t ∈ d.templates, t.reading? line d.zone now = none) :
    (d.detect line now).value.1 = d
      ∧ (d.detect line now).value.2.bind Found.time = none := by
  obtain ⟨first, hvalue⟩ := attempt_of_no_reading h none
  unfold detect
  rw [Noted.value_bind, hvalue]
  refine ⟨by simp, ?_⟩
  cases first <;> rfl

/-- When all templates that read a line agree about it, and one does, the
order in which they are tried makes no difference. -/
theorem detect_of_agreement
    (hall : ∀ t ∈ d.templates, t.reading? line d.zone now = none
      ∨ t.reading? line d.zone now = some (span, time))
    (hsome : ∃ t ∈ d.templates, t.reading? line d.zone now ≠ none) :
    (d.detect line now).value.2 = some ⟨span, some time⟩ := by
  obtain ⟨t, ht, hreads⟩ := hsome
  have hfirst : (d.templates.find?
      (·.reading? line d.zone now |>.isSome)).isSome = true :=
    List.find?_isSome.2 ⟨t, ht, Option.isSome_iff_ne_none.2 hreads⟩
  obtain ⟨u, hu⟩ := Option.isSome_iff_exists.1 hfirst
  obtain ⟨hreads, before, rest, hsplit, hbefore⟩ :=
    List.find?_eq_some_iff_append.1 hu
  have hu : u.reading? line d.zone now = some (span, time) :=
    (hall u (hsplit ▸ by simp)).resolve_left
      (Option.isSome_iff_ne_none.1 hreads)
  rw [detect_of_reading hsplit (fun v hv => by simpa using hbefore v hv) hu]

end Trying

-- ============================================================= sorting

section Sorting

/-- There is one order only in which those with greater keys come first
and those with equal keys stand in a given order. -/
theorem eq_of_filter_eq {α : Type} {key : α → Nat} {as bs : List α}
    (ha : as.Pairwise fun a b => key b ≤ key a)
    (hb : bs.Pairwise fun a b => key b ≤ key a)
    (h : ∀ n, as.filter (key · = n) = bs.filter (key · = n)) :
    as = bs := by
  have hmem : ∀ x, x ∈ as ↔ x ∈ bs := by
    intro x
    have hx := congrArg (x ∈ ·) (h (key x))
    simpa using hx
  induction as generalizing bs with
  | nil =>
      exact (List.eq_nil_iff_forall_not_mem.2 fun x hx =>
        List.not_mem_nil ((hmem x).2 hx)).symm
  | cons a as ih =>
      cases bs with
      | nil => exact absurd ((hmem a).1 List.mem_cons_self) List.not_mem_nil
      | cons b bs =>
          rw [List.pairwise_cons] at ha hb
          -- both heads have the greatest key, so each is the first of it
          have hle : key a ≤ key b := by
            rcases List.mem_cons.1 ((hmem a).1 List.mem_cons_self) with
              rfl | hin
            · exact Nat.le_refl _
            · exact hb.1 a hin
          have hge : key b ≤ key a := by
            rcases List.mem_cons.1 ((hmem b).2 List.mem_cons_self) with
              rfl | hin
            · exact Nat.le_refl _
            · exact ha.1 b hin
          have hkey : key b = key a := Nat.le_antisymm hge hle
          have hheads := h (key a)
          rw [List.filter_cons_of_pos (by simp),
            List.filter_cons_of_pos (by simpa using hkey)] at hheads
          injection hheads with hab
          subst hab
          have htails : ∀ n, as.filter (key · = n) = bs.filter (key · = n) := by
            intro n
            have hn := h n
            rw [List.filter_cons, List.filter_cons] at hn
            split at hn
            · injection hn
            · exact hn
          refine congrArg (a :: ·) (ih ha.2 hb.2 htails fun x => ?_)
          have hx := congrArg (x ∈ ·) (htails (key x))
          simpa using hx

/-- A stable sort by a key keeps the order of those with equal keys. -/
theorem filter_mergeSort {α : Type} (key : α → Nat) (l : List α) (n : Nat) :
    (l.mergeSort fun a b => key b ≤ key a).filter (key · = n)
      = l.filter (key · = n) := by
  have hequal : (l.filter (key · = n)).Pairwise fun a b =>
      decide (key b ≤ key a) = true := by
    refine List.Pairwise.imp_of_mem (R := fun _ _ => True) ?_
      (List.pairwise_of_forall fun _ _ => trivial)
    intro a b ha hb _
    have ha := (List.mem_filter.1 ha).2
    have hb := (List.mem_filter.1 hb).2
    simp only [decide_eq_true_eq] at ha hb ⊢
    omega
  have hsub : (l.filter (key · = n)).Sublist
      (l.mergeSort fun a b => key b ≤ key a) :=
    List.sublist_mergeSort (by simp only [decide_eq_true_eq]; omega)
      (by simp only [Bool.or_eq_true, decide_eq_true_eq]; omega) hequal
      List.filter_sublist
  have hfilter := hsub.filter (fun x => decide (key x = n))
  rw [List.filter_filter] at hfilter
  simp only [Bool.and_self] at hfilter
  refine (hfilter.eq_of_length ?_).symm
  exact ((List.mergeSort_perm l _).filter _).length_eq.symm

/-- Those with greater keys come first. -/
theorem pairwise_mergeSort_key {α : Type} (key : α → Nat) (l : List α) :
    (l.mergeSort fun a b => key b ≤ key a).Pairwise fun a b =>
      key b ≤ key a := by
  have hsorted : (l.mergeSort fun a b => key b ≤ key a).Pairwise fun a b =>
      decide (key b ≤ key a) = true :=
    List.pairwise_mergeSort (by simp only [decide_eq_true_eq]; omega)
      (by simp only [Bool.or_eq_true, decide_eq_true_eq]; omega) l
  exact hsorted.imp fun h => of_decide_eq_true h

/-- The hits of templates in the order of trial never rise. -/
def Descending (ts : List Template) : Prop :=
  ts.Pairwise fun t u => u.hits ≤ t.hits

theorem mem_insertByHits {t u : Template} {ts : List Template}
    (h : u ∈ insertByHits t ts) : u = t ∨ u ∈ ts := by
  induction ts with
  | nil => exact .inl (List.mem_singleton.1 h)
  | cons v ts ih =>
      rw [insertByHits] at h
      split at h
      · exact List.mem_cons.1 h
      · rcases List.mem_cons.1 h with rfl | h
        · exact .inr List.mem_cons_self
        · exact (ih h).imp_right (List.mem_cons_of_mem v)

theorem descending_insertByHits (t : Template) {ts : List Template}
    (h : Descending ts) : Descending (insertByHits t ts) := by
  induction ts with
  | nil => exact List.pairwise_singleton _ _
  | cons v ts ih =>
      obtain ⟨hv, hts⟩ := List.pairwise_cons.1 h
      rw [insertByHits]
      split
      case isTrue hlt =>
        refine List.pairwise_cons.2 ⟨fun u hu => ?_, h⟩
        rcases List.mem_cons.1 hu with rfl | hu
        · exact Nat.le_of_lt hlt
        · exact Nat.le_trans (hv u hu) (Nat.le_of_lt hlt)
      case isFalse hge =>
        refine List.pairwise_cons.2 ⟨fun u hu => ?_, ih hts⟩
        rcases mem_insertByHits hu with rfl | hu
        · exact Nat.le_of_not_lt hge
        · exact hv u hu

/-- A template is put behind those with as many hits. -/
theorem filter_insertByHits (t : Template) {ts : List Template}
    (h : Descending ts) (n : Nat) :
    (insertByHits t ts).filter (·.hits = n)
      = ts.filter (·.hits = n) ++ [t].filter (·.hits = n) := by
  induction ts with
  | nil => rfl
  | cons v ts ih =>
      obtain ⟨hv, hts⟩ := List.pairwise_cons.1 h
      rw [insertByHits]
      split
      case isTrue hlt =>
        by_cases hn : t.hits = n
        · -- all the others have fewer hits
          have hnone : (v :: ts).filter (·.hits = n) = [] := by
            rw [List.filter_eq_nil_iff]
            intro u hu
            have hle : u.hits ≤ v.hits := by
              rcases List.mem_cons.1 hu with rfl | hu
              · exact Nat.le_refl _
              · exact hv u hu
            simp only [decide_eq_true_eq]
            omega
          rw [List.filter_cons_of_pos (by simpa using hn), hnone,
            List.filter_cons_of_pos (by simpa using hn)]
          rfl
        · rw [List.filter_cons_of_neg (a := t) (by simpa using hn),
            List.filter_cons_of_neg (a := t) (by simpa using hn),
            List.filter_nil, List.append_nil]
      case isFalse =>
        rw [List.filter_cons, List.filter_cons, ih hts]
        split <;> rfl

theorem byHits_concat (ts : List Template) (t : Template) :
    byHits (ts ++ [t]) = insertByHits t (byHits ts) := by
  unfold byHits
  rw [List.foldl_append]
  rfl

/-- Those with more hits come first. -/
theorem pairwise_byHits (ts : List Template) : Descending (byHits ts) := by
  induction ts using List.reverseRecOn with
  | nil => exact List.Pairwise.nil
  | append_singleton ts t ih =>
      rw [byHits_concat]
      exact descending_insertByHits t ih

/-- Those with as many hits keep their order. -/
theorem filter_byHits (ts : List Template) (n : Nat) :
    (byHits ts).filter (·.hits = n) = ts.filter (·.hits = n) := by
  induction ts using List.reverseRecOn with
  | nil => rfl
  | append_singleton ts t ih =>
      rw [byHits_concat, filter_insertByHits t (pairwise_byHits ts), ih,
        List.filter_append]

theorem byHits_eq_mergeSort (ts : List Template) :
    byHits ts = ts.mergeSort fun t u => u.hits ≤ t.hits := by
  refine eq_of_filter_eq (pairwise_byHits ts)
    (pairwise_mergeSort_key Template.hits ts) fun n => ?_
  rw [filter_byHits, filter_mergeSort]

end Sorting

end Detector

end Gatewatch.Date
