/-
Whether the user's template is tried first.

Setting a pattern puts its template in front, and only sorting moves it
from there. Sorting looks at hits alone: a template that has more of them
than the user's goes past it, and one with as many stays where it is. So
another template stands before the user's exactly when it has overtaken
it (`Overtakes`): at some sorting it had more hits, and at none since then
fewer (`pair_sublist_iff`).

While nobody has overtaken it, the user's template supplies the date of
every line that it reads (`user_pattern_goes_first_iff`). But the
templates that are there already keep their hits when a pattern is set,
and the next sorting puts them in front
(`overtaken_pattern_is_not_asked`).
-/
import Gatewatch.Proofs.Date.Register
import Mathlib.Data.List.Nodup

namespace Gatewatch.Date

-- ============================================================== before

section Before

variable {α : Type} {a b : α} {l : List α}

/-- Without repetition nobody stands both before and behind another. -/
theorem not_pair_sublist_swap (hl : l.Nodup) (hab : [a, b].Sublist l) :
    ¬ [b, a].Sublist l := by
  induction l with
  | nil => cases hab
  | cons x l ih =>
      intro hba
      obtain ⟨hx, hl⟩ := List.nodup_cons.1 hl
      rcases List.sublist_cons_iff.1 hab with hab | ⟨r, hr, hab⟩
      · rcases List.sublist_cons_iff.1 hba with hba | ⟨s, hs, hba⟩
        · exact ih hl hab hba
        · injection hs with hs
          exact hx (hs ▸ hab.mem (by simp))
      · injection hr with hax hr
        subst hr
        have hb : b ∈ l := List.singleton_sublist.1 hab
        rcases List.sublist_cons_iff.1 hba with hba | ⟨s, hs, -⟩
        · exact hx (hax ▸ hba.mem (by simp))
        · injection hs with hs
          exact hx (hs ▸ hb)

/-- Of two members one stands before the other. -/
theorem pair_sublist_or_swap (ha : a ∈ l) (hb : b ∈ l) (hne : a ≠ b) :
    [a, b].Sublist l ∨ [b, a].Sublist l := by
  induction l with
  | nil => cases ha
  | cons x l ih =>
      rcases List.mem_cons.1 ha with rfl | hal
      · have hbl : b ∈ l := List.mem_of_ne_of_mem hne.symm hb
        exact .inl ((List.singleton_sublist.2 hbl).cons_cons a)
      · rcases List.mem_cons.1 hb with rfl | hbl
        · exact .inr ((List.singleton_sublist.2 hal).cons_cons b)
        · exact (ih hal hbl).imp (.cons x) (.cons x)

/-- Who comes in behind stands before nobody. -/
theorem pair_sublist_concat_iff {c : α} (hne : b ≠ c) :
    [a, b].Sublist (l ++ [c]) ↔ [a, b].Sublist l := by
  have hback : [a, b].reverse.Sublist l.reverse ↔ [a, b].Sublist l :=
    List.reverse_sublist
  rw [← List.reverse_sublist, List.reverse_concat, List.sublist_cons_iff,
    ← hback]
  refine or_iff_left ?_
  rintro ⟨r, hr, -⟩
  injection hr with hr
  exact hne hr

/-- The first one is the one that nobody stands before. -/
theorem head?_eq_some_iff_forall (hl : l.Nodup) (hb : b ∈ l) :
    l.head? = some b ↔ ∀ a, ¬ [a, b].Sublist l := by
  cases l with
  | nil => cases hb
  | cons x l =>
      obtain ⟨hx, -⟩ := List.nodup_cons.1 hl
      rw [List.head?_cons, Option.some.injEq]
      constructor
      · rintro rfl a hab
        rcases List.sublist_cons_iff.1 hab with hab | ⟨r, hr, hab⟩
        · exact hx (hab.mem (by simp))
        · injection hr with _ hr
          exact hx (List.singleton_sublist.1 (hr ▸ hab))
      · intro hnone
        by_contra hne
        have hb : b ∈ l := List.mem_of_ne_of_mem (Ne.symm hne) hb
        exact hnone x ((List.singleton_sublist.2 hb).cons_cons x)

/-- Sorting puts those in front that have the greater key, and leaves
those that have the same as they were. -/
theorem pair_sublist_mergeSort_iff (key : α → Nat) (hl : l.Nodup)
    (hb : b ∈ l) :
    [a, b].Sublist (l.mergeSort fun x y => key y ≤ key x)
      ↔ a ∈ l ∧ key b < key a ∨ [a, b].Sublist l ∧ key b ≤ key a := by
  have hperm := List.mergeSort_perm l fun x y => decide (key y ≤ key x)
  have hsorted : ∀ {x y}, [x, y].Sublist
      (l.mergeSort fun x y => key y ≤ key x) → key y ≤ key x := fun h => by
    simpa using (Detector.pairwise_mergeSort_key key l).sublist h
  have hstable : ∀ {x y}, key y ≤ key x → [x, y].Sublist l →
      [x, y].Sublist (l.mergeSort fun x y => key y ≤ key x) := fun hle h =>
    List.pair_sublist_mergeSort (by simp only [decide_eq_true_eq]; omega)
      (by simp only [Bool.or_eq_true, decide_eq_true_eq]; omega)
      (decide_eq_true hle) h
  constructor
  · intro hab
    have ha : a ∈ l := hperm.mem_iff.1 (hab.mem (by simp))
    have hle : key b ≤ key a := hsorted hab
    have hne : a ≠ b := by
      rintro rfl
      exact not_pair_sublist_swap (hperm.nodup_iff.2 hl) hab hab
    rcases Nat.lt_or_ge (key b) (key a) with hlt | hge
    · exact .inl ⟨ha, hlt⟩
    · rcases pair_sublist_or_swap ha hb hne with h | h
      · exact .inr ⟨h, hle⟩
      · exact absurd (hstable hge h)
          (not_pair_sublist_swap (hperm.nodup_iff.2 hl) hab)
  · rintro (⟨ha, hlt⟩ | ⟨hab, hle⟩)
    · have hne : a ≠ b := fun h => Nat.ne_of_gt hlt (congrArg key h)
      rcases pair_sublist_or_swap (hperm.mem_iff.2 ha) (hperm.mem_iff.2 hb)
        hne with h | h
      · exact h
      · exact absurd hlt (Nat.not_lt_of_le (hsorted h))
    · exact hstable hle hab

end Before

namespace Register

-- ========================================================== overtaking

/-- The registers at which a call found templates to sort, the earliest
first. -/
def sorts (r : Register) : List Call → List Register
  | [] => []
  | c :: calls =>
    (if c = .sort ∧ r.detector.unsorted = true then [r] else [])
      ++ (r.call c).sorts calls

theorem sorts_concat (r : Register) (calls : List Call) (c : Call) :
    r.sorts (calls ++ [c]) = r.sorts calls
      ++ if c = .sort ∧ (r.run calls).detector.unsorted = true then
          [r.run calls]
        else [] := by
  induction calls generalizing r with
  | nil => exact List.append_nil _
  | cons d calls ih =>
      rw [List.cons_append, sorts, ih, sorts, List.append_assoc]
      rfl

/-- The template `m` has overtaken `k`: at one of some sortings it had
more hits, and at none after that it had fewer. -/
def Overtakes (sorts : List Register) (m k : Nat) : Prop :=
  ∃ before r after, sorts = before ++ r :: after ∧ m ∈ r.numbers
    ∧ r.hits k < r.hits m ∧ ∀ s ∈ after, s.hits k ≤ s.hits m

theorem overtakes_concat {sorts : List Register} {r : Register} {m k : Nat} :
    Overtakes (sorts ++ [r]) m k
      ↔ m ∈ r.numbers ∧ r.hits k < r.hits m
        ∨ Overtakes sorts m k ∧ r.hits k ≤ r.hits m := by
  constructor
  · rintro ⟨before, s, after, hsplit, hm, hlt, hafter⟩
    rcases List.eq_nil_or_concat after with rfl | ⟨after, x, rfl⟩
    · obtain ⟨-, hs⟩ := List.append_inj' hsplit rfl
      injection hs with hs
      exact .inl ⟨hs ▸ hm, hs ▸ hlt⟩
    · rw [List.concat_eq_append] at hafter
      rw [List.concat_eq_append, ← List.cons_append,
        ← List.append_assoc] at hsplit
      obtain ⟨hsorts, hx⟩ := List.append_inj' hsplit rfl
      injection hx with hx
      refine .inr ⟨⟨before, s, after, hsorts, hm, hlt, fun y hy =>
        hafter y (List.mem_append_left _ hy)⟩, ?_⟩
      exact hx ▸ hafter x (by simp)
  · rintro (⟨hm, hlt⟩ | ⟨⟨before, s, after, rfl, hm, hlt, hafter⟩, hle⟩)
    · exact ⟨sorts, r, [], rfl, hm, hlt, nofun⟩
    · refine ⟨before, s, after ++ [r], by simp, hm, hlt, fun y hy => ?_⟩
      rcases List.mem_append.1 hy with hy | hy
      · exact hafter y hy
      · rw [List.mem_singleton.1 hy]
        exact hle

variable {r : Register} {calls : List Call} {c : Call}

/-- The numbers of the sorted entries are the numbers, sorted. -/
theorem map_sorted (hr : Sound r calls) :
    r.sorted.map (·.2) = r.numbers.mergeSort fun m n => r.hits n ≤ r.hits m := by
  unfold sorted
  rw [numbers_eq hr.length]
  refine List.map_mergeSort fun e he f hf => ?_
  rw [hr.counted e he, hr.counted f hf]

/-- What a call that sets no pattern does to the order of the templates. -/
theorem numbers_call (r : Register) (huser : c.user? = none) :
    (c = .sort ∧ r.detector.unsorted = true)
        ∧ (r.call c).numbers = r.sorted.map (·.2)
      ∨ ¬ (c = .sort ∧ r.detector.unsorted = true)
        ∧ ((r.call c).numbers = r.numbers
          ∨ (r.call c).numbers = r.numbers ++ [r.next]) := by
  cases c with
  | find => exact .inr ⟨nofun, .inl rfl⟩
  | sort =>
      have hnumbers : (r.call .sort).numbers
          = if r.detector.unsorted then r.sorted.map (·.2)
            else r.numbers := rfl
      by_cases hunsorted : r.detector.unsorted = true
      · exact .inl ⟨⟨rfl, hunsorted⟩, hnumbers.trans (if_pos hunsorted)⟩
      · exact .inr ⟨fun h => hunsorted h.2,
          .inl (hnumbers.trans (if_neg hunsorted))⟩
  | add name text kind =>
      have hnumbers : (r.call (.add name text kind)).numbers
          = if (Call.add name text kind).added?.isSome then
              r.numbers ++ [r.next]
            else r.numbers := rfl
      refine .inr ⟨nofun, ?_⟩
      rw [hnumbers]
      split
      · exact .inr rfl
      · exact .inl rfl
  | pattern text =>
      have hnumbers : (r.call (.pattern text)).numbers
          = if (Call.pattern text).user?.isSome then
              r.next :: (r.entries.filter (·.1.source.isNone)).map (·.2)
            else r.numbers := rfl
      rw [huser] at hnumbers
      exact .inr ⟨nofun, .inl hnumbers⟩

/-- Behind the call that set the user's template, others stand before it
exactly when they have overtaken it. -/
theorem pair_sublist_iff {start : Register} {before after : List Call}
    {k : Nat} {rest : List Nat} (hstart : Sound start before)
    (hk : start.numbers = k :: rest)
    (hafter : ∀ c ∈ after, c.user? = none) :
    k ∈ (start.run after).numbers
      ∧ ∀ m, [m, k].Sublist (start.run after).numbers
        ↔ Overtakes (start.sorts after) m k := by
  induction after using List.reverseRecOn with
  | nil =>
      have hfirst := (head?_eq_some_iff_forall (b := k) hstart.distinct
        (by rw [hk]; exact List.mem_cons_self)).1 (by rw [hk]; rfl)
      refine ⟨by rw [run, List.foldl_nil, hk]; exact List.mem_cons_self,
        fun m => ⟨fun h => absurd h (hfirst m), ?_⟩⟩
      rintro ⟨before, s, more, hsplit, -⟩
      exact absurd hsplit (by simp [sorts])
  | append_singleton after c ih =>
      obtain ⟨hmem, hiff⟩ :=
        ih fun d hd => hafter d (List.mem_append_left _ hd)
      have hr : Sound (start.run after) (before ++ after) := hstart.run after
      rw [run_concat, sorts_concat]
      generalize start.run after = r at hmem hiff hr ⊢
      obtain ⟨hsort, hnumbers⟩ | ⟨hrest, hsame | hjoins⟩ :=
        numbers_call r (hafter c (by simp))
      · rw [if_pos hsort, hnumbers, map_sorted hr]
        refine ⟨(List.mergeSort_perm _ _).mem_iff.2 hmem, fun m => ?_⟩
        rw [pair_sublist_mergeSort_iff r.hits hr.distinct hmem,
          overtakes_concat, hiff]
      · rw [if_neg hrest, List.append_nil, hsame]
        exact ⟨hmem, hiff⟩
      · -- who joins stands behind, and has overtaken nobody
        have hold : k ≠ r.next := Nat.ne_of_lt (hr.below k hmem)
        rw [if_neg hrest, List.append_nil, hjoins]
        exact ⟨List.mem_append_left _ hmem,
          fun m => (pair_sublist_concat_iff hold).trans (hiff m)⟩

-- ================================================= the user's template

/-- The last template that the user set is that of the last call that set
one. -/
theorem getLast?_joined {before after : List Call} {u : Template}
    (hc : c.user? = some u) (hafter : ∀ c ∈ after, c.user? = none) :
    (joined Call.user? (before ++ c :: after)).getLast?
      = some (u, firstNumber + before.length) := by
  induction after using List.reverseRecOn with
  | nil =>
      rw [joined_concat, hc, Option.map_some, Option.toList_some,
        List.getLast?_concat]
  | append_singleton after d ih =>
      have hd : d.user? = none := hafter d (by simp)
      rw [← List.cons_append, ← List.append_assoc, joined_concat, hd,
        Option.map_none, Option.toList_none, List.append_nil]
      exact ih fun x hx => hafter x (List.mem_append_left _ hx)

/-- It is the one entry that was made from a text of the user. -/
theorem source_ne_none_iff {before after : List Call} {u : Template}
    (hr : Sound r (before ++ c :: after)) (hc : c.user? = some u)
    (hafter : ∀ c ∈ after, c.user? = none) {e : Template × Nat}
    (he : e ∈ r.entries) :
    (e.1.source ≠ none ↔ e.2 = firstNumber + before.length)
      ∧ (e.2 = firstNumber + before.length → e.1.fresh = u) := by
  have hmem : ∀ x : Template × Nat,
      x ∈ r.entries.map (fun e => (e.1.fresh, e.2))
        ↔ x ∈ standing (before ++ c :: after) := fun x => hr.kept.mem_iff
  have huser : (u, firstNumber + before.length)
      ∈ standing (before ++ c :: after) := by
    unfold standing
    rw [getLast?_joined hc hafter]
    simp
  obtain ⟨e', he', heq⟩ := List.mem_map.1 ((hmem _).2 huser)
  injection heq with hfresh hnumber
  have hsource : e'.1.fresh.source = u.source := congrArg _ hfresh
  have hsame : e.2 = firstNumber + before.length → e = e' := fun h => by
    have hdistinct := hr.distinct
    rw [numbers_eq hr.length] at hdistinct
    exact List.inj_on_of_nodup_map hdistinct he he' (h.trans hnumber.symm)
  refine ⟨⟨fun hne => ?_, fun h => ?_⟩, fun h => ?_⟩
  · have hin := (hmem _).1 (List.mem_map_of_mem he)
    have hbase : (e.1.fresh, e.2) ∉ Builtin.templates.zipIdx
        ++ joined Call.added? (before ++ c :: after) := by
      rw [← filter_standing]
      intro h
      exact hne (Option.isNone_iff_eq_none.1 (List.mem_filter.1 h).2)
    unfold standing at hin
    rw [getLast?_joined hc hafter] at hin
    rcases List.mem_append.1 hin with hin | hin
    · exact absurd hin hbase
    · have hlast := List.mem_singleton.1 hin
      injection hlast
  · obtain ⟨⟨text, htext, -⟩, -⟩ := Call.user?_spec hc
    rw [hsame h, ← Template.source_fresh, hsource, htext]
    nofun
  · rw [hsame h]
    exact hfresh

/-- The first template is made from the last text of the user when its
number is that of the call that set it. -/
theorem source_head_iff {before after : List Call} {text : String}
    {u : Template} (hr : Sound r (before ++ .pattern text :: after))
    (htext : Template.ofFields text = .ok u)
    (hafter : ∀ c ∈ after, c.user? = none) {e : Template × Nat}
    (he : e ∈ r.entries) :
    (e.1.source = some text ↔ e.2 = firstNumber + before.length)
      ∧ (e.1.source = some text → e.1.fresh = u) := by
  have huser : (Call.pattern text).user? = some u :=
    congrArg Except.toOption htext
  have hsource : u.source = some text := by
    obtain ⟨⟨text', hsource, htext'⟩, -⟩ := Call.user?_spec huser
    injection htext' with htext'
    rw [hsource, htext']
  obtain ⟨hown, hfresh⟩ := source_ne_none_iff hr huser hafter he
  have hiff : e.1.source = some text ↔ e.2 = firstNumber + before.length := by
    constructor
    · intro h
      exact hown.1 (by rw [h]; nofun)
    · intro h
      rw [← Template.source_fresh, hfresh h, hsource]
  exact ⟨hiff, fun h => hfresh (hiff.1 h)⟩

end Register

open Register in
/-- Behind the last pattern that the user set, its template is the first
one tried exactly when no other has overtaken it. As long as it is, it
supplies the date of every line that it reads, whatever else reads the
line. -/
theorem user_pattern_goes_first_iff (zone : Int) (before : List Call)
    {after : List Call} {text : String} {u : Template}
    (htext : Template.ofFields text = .ok u)
    (hafter : ∀ c ∈ after, c.user? = none) :
    let start := (Register.builtin zone).run (before ++ [.pattern text])
    let d := (Detector.builtin zone).run (before ++ .pattern text :: after)
    let first := d.templates.head?.bind Template.source = some text
    (first ↔ ∀ m, ¬ Overtakes (start.sorts after) m
      (firstNumber + before.length))
    ∧ (first → ∀ line now span time,
      u.reading? line zone now = some (span, time) →
        (d.detect line now).value.2 = some ⟨span, some time⟩) := by
  intro start d first
  have huser : (Call.pattern text).user? = some u :=
    congrArg Except.toOption htext
  have hstart : Sound start (before ++ [.pattern text]) := sound_run zone _
  have hnumbers : ∃ rest, start.numbers
      = (firstNumber + before.length) :: rest := by
    have hnext := (sound_run zone before).next
    unfold start
    rw [run_concat, ← hnext]
    show ∃ rest, (if (Call.pattern text).user?.isSome = true then _ else _) = _
    rw [huser]
    exact ⟨_, rfl⟩
  obtain ⟨rest, hk⟩ := hnumbers
  obtain ⟨hmem, hiff⟩ := pair_sublist_iff hstart hk hafter
  have hrun : start.run after
      = (builtin zone).run (before ++ .pattern text :: after) := by
    unfold start
    rw [← run_append, List.append_assoc]
    rfl
  have hr : Sound (start.run after) (before ++ .pattern text :: after) := by
    rw [hrun]
    exact sound_run zone _
  have hd : d = (start.run after).detector := by
    rw [hrun, detector_run]
    rfl
  have hzone : d.zone = zone := Detector.zone_run _ _
  generalize start.run after = r at hmem hiff hr hd
  have hentries : ∃ e es, r.entries = e :: es := by
    rw [numbers_eq hr.length] at hmem
    obtain ⟨e, he, -⟩ := List.mem_map.1 hmem
    exact List.exists_cons_of_ne_nil (List.ne_nil_of_mem he)
  obtain ⟨e, es, hes⟩ := hentries
  have htemplates : d.templates = e.1 :: es.map (·.1) := by
    rw [hd, templates_eq hr.length, hes]
    rfl
  have hfirst : first ↔ e.1.source = some text := by
    unfold first
    rw [htemplates, List.head?_cons, Option.bind_some]
  obtain ⟨hnumber, hfresh⟩ := source_head_iff hr htext hafter
    (hes ▸ List.mem_cons_self : e ∈ r.entries)
  constructor
  · rw [hfirst, hnumber]
    have hhead := head?_eq_some_iff_forall hr.distinct hmem
    rw [numbers_eq hr.length, hes, List.map_cons, List.head?_cons,
      Option.some.injEq, ← List.map_cons, ← hes, ← numbers_eq hr.length] at hhead
    rw [hhead]
    exact forall_congr' fun m => not_congr (hiff m)
  · intro h line now span time hreads
    have hfirst' : e.1.reading? line d.zone now = some (span, time) := by
      rw [← Template.reading?_fresh, hfresh (hfirst.1 h), hzone]
      exact hreads
    have hsplit : d.templates = [] ++ e.1 :: es.map (·.1) := htemplates
    rw [Detector.detect_of_reading hsplit nofun hfirst']

/-- A pattern of days before months, set on a new detector, has read one
line when the templates are sorted. -/
theorem used_pattern_goes_first :
    let text := "%Y-%d-%m %H:%M:%S"
    let line := "2005-08-04 11:59:59".toList
    let after := [Call.find line 1262304000, .sort]
    (∃ u, Template.ofFields text = .ok u
        ∧ u.reading? line 0 1262304000 = some (⟨0, 19⟩, 1112961599))
      ∧ (∀ c ∈ after, c.user? = none)
      ∧ (((Detector.builtin 0).run (.pattern text :: after)).detect line
        1262304000).value.2 = some ⟨⟨0, 19⟩, some 1112961599⟩ := by
  intro text line after
  have hread : (Template.ofFields text).toOption.bind
      (·.reading? line 0 1262304000) = some (⟨0, 19⟩, 1112961599) := by
    decide +kernel
  obtain ⟨u, hu, hreads⟩ := Option.bind_eq_some_iff.1 hread
  have htext := Outcome.eq_ok_of_toOption hu
  have hafter : ∀ c ∈ after, c.user? = none := by
    simp [after, Call.user?]
  have hfirst : (((Detector.builtin 0).run (.pattern text :: after)).templates.head?.bind
      Template.source) = some text := by
    decide +kernel
  exact ⟨⟨u, htext, hreads⟩, hafter,
    (user_pattern_goes_first_iff 0 [] htext hafter).2 hfirst _ _ _ _ hreads⟩

/-- A line with the month before the day came first. The pattern is set,
the templates are sorted, and from then on the fourth of August is read
where the pattern says the eighth of April. -/
theorem overtaken_pattern_is_not_asked :
    let text := "%Y-%d-%m %H:%M:%S"
    let line := "2005-08-04 11:59:59".toList
    let d := (Detector.builtin 0).run
      [.find "2005-08-14 11:59:59".toList 1262304000, .pattern text, .sort]
    (∃ u, Template.ofFields text = .ok u
        ∧ u.reading? line 0 1262304000 = some (⟨0, 19⟩, 1112961599))
      ∧ (d.detect line 1262304000).value.2
        = some ⟨⟨0, 19⟩, some 1123156799⟩ := by
  intro text line d
  have hread : (Template.ofFields text).toOption.bind
      (·.reading? line 0 1262304000) = some (⟨0, 19⟩, 1112961599) := by
    decide +kernel
  obtain ⟨u, hu, hreads⟩ := Option.bind_eq_some_iff.1 hread
  exact ⟨⟨u, Outcome.eq_ok_of_toOption hu, hreads⟩, by decide +kernel⟩

end Gatewatch.Date
