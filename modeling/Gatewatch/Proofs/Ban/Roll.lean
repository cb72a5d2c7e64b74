/-
The roll as a map from sources to bans.

A roll has at most one ban of a source (`Roll.Unique`), and every
operation on it keeps that. Under it `Roll.get?` tells all there is to
know about a source: the bans of a source are the one that `get?` finds
(`bans_of_source`), taking bans away filters what `get?` answers
(`get?_keep`), and setting a ban answers it for a source that had none
and moves nothing but the end of a ban otherwise.

What never moves is the event of a ban: `extend` writes the duration,
and no command can say the duration. So `Roll.events`, the events of the
bans with their sources, changes only when a ban comes or goes.
-/
import Gatewatch.Ban.Roll
import Gatewatch.Proofs.Keyed

namespace Gatewatch.Ban

open Net (Address)

-- ===================================================== setting a ban

/-- Extending a ban moves its end at most: whatever does not read the
duration is as before. -/
theorem extend_map {β : Type} (f : Ban → β)
    (hf : ∀ (b : Ban) (d : Int), f { b with duration := d } = f b)
    (old new : Ban) : f (extend old new).1 = f old := by
  unfold extend
  split
  · rfl
  · exact hf old (-1)
  · split
    · exact hf old _
    · rfl

/-- Extending a ban is never a new ban. -/
theorem extend_effect (old new : Ban) : (extend old new).2 ≠ .banned := by
  unfold extend
  split
  · simp
  · simp
  · split <;> simp

namespace Roll

/-- A ban of a source that has none goes behind the others. -/
theorem setIn_of_absent {b : Ban} {bans : List Ban}
    (h : ∀ x ∈ bans, x.source ≠ b.source) :
    setIn b bans = (bans ++ [b], .banned) := by
  induction bans with
  | nil => rfl
  | cons x rest ih =>
      have hx : x.source ≠ b.source := h x (List.mem_cons_self ..)
      have hrest := ih fun y hy => h y (List.mem_cons_of_mem _ hy)
      simp only [setIn, if_neg hx, hrest, List.cons_append]

/-- A ban of a source that has one is not a new ban, and nothing but a
duration changes. -/
theorem setIn_of_present {b : Ban} {bans : List Ban}
    (h : ∃ x ∈ bans, x.source = b.source) :
    (setIn b bans).2 ≠ .banned
      ∧ ∀ {β : Type} (f : Ban → β),
          (∀ (x : Ban) (d : Int), f { x with duration := d } = f x) →
          (setIn b bans).1.map f = bans.map f := by
  induction bans with
  | nil =>
      obtain ⟨x, hx, -⟩ := h
      cases hx
  | cons x rest ih =>
      by_cases hx : x.source = b.source
      · simp only [setIn, if_pos hx]
        refine ⟨extend_effect x b, fun f hf => ?_⟩
        rw [List.map_cons, List.map_cons, extend_map f hf]
      · simp only [setIn, if_neg hx]
        obtain ⟨y, hy, hys⟩ := h
        rcases List.mem_cons.mp hy with rfl | hy'
        · exact absurd hys hx
        · obtain ⟨heffect, hmap⟩ := ih ⟨y, hy', hys⟩
          refine ⟨heffect, fun f hf => ?_⟩
          rw [List.map_cons, List.map_cons, hmap f hf]

-- ================================================= one ban of a source

/-- No source has two bans. -/
def Unique (r : Roll) : Prop := r.sources.Nodup

/-- The events of the bans, each with its source. -/
def events (r : Roll) : List (Address × Event) :=
  r.bans.map fun b => (b.source, b.event)

/-- The sources are the first halves of the events. -/
theorem sources_eq_events (r : Roll) :
    r.sources = r.events.map Prod.fst := by
  unfold sources events
  rw [List.map_map]
  rfl

/-- Rolls with the same events have one ban of a source together. -/
theorem Unique.of_events {r r' : Roll} (hr : r.Unique)
    (h : r'.events = r.events) : r'.Unique := by
  unfold Unique
  rw [sources_eq_events, h, ← sources_eq_events]
  exact hr

/-- What the ban of a source tells is found among the events. -/
theorem event_get? (r : Roll) (source : Address) :
    (r.get? source).map Ban.event
      = (r.events.find? (·.1 == source)).map Prod.snd := by
  unfold get? events
  rw [List.find?_map, Option.map_map]
  rfl

/-- A source is banned when it has a ban. -/
theorem contains_eq (r : Roll) (source : Address) :
    r.contains source = (r.get? source).isSome := by
  unfold contains get?
  rw [List.isSome_find?]

/-- The ban that is found for a source is its ban. -/
theorem source_of_get? {r : Roll} {source : Address} {b : Ban}
    (h : r.get? source = some b) : b.source = source := by
  simpa using List.find?_some h

/-- The bans of a source are the one that is found for it. -/
theorem bans_of_source {r : Roll} (hr : r.Unique) (source : Address) :
    r.bans.filter (·.source == source) = (r.get? source).toList :=
  Keyed.filter_eq_toList (show (r.bans.map Ban.source).Nodup from hr) source

-- ================================================ taking bans away

/-- The roll with only the bans that pass a test. -/
def keep (r : Roll) (p : Ban → Bool) : Roll :=
  { r with bans := r.bans.filter p }

/-- Taking bans away leaves no source with two. -/
theorem Unique.keep {r : Roll} (hr : r.Unique) (p : Ban → Bool) :
    (r.keep p).Unique :=
  List.Nodup.sublist (List.filter_sublist.map _) hr

/-- A source keeps its ban when the ban passes the test. -/
theorem get?_keep {r : Roll} (hr : r.Unique) (p : Ban → Bool)
    (source : Address) :
    (r.keep p).get? source = (r.get? source).filter p :=
  Keyed.find?_filter (show (r.bans.map Ban.source).Nodup from hr) p source

/-- Of the bans of a source, those that pass a test. -/
theorem filter_of_source {r : Roll} (hr : r.Unique) (p : Ban → Bool)
    (source : Address) :
    (r.bans.filter p).filter (·.source == source)
      = ((r.get? source).filter p).toList := by
  rw [← get?_keep hr p source]
  exact bans_of_source (hr.keep p) source

/-- Erasing the ban of a source leaves the bans of the others. -/
theorem eraseP_source {bans : List Ban} (source : Address)
    (hnd : (bans.map Ban.source).Nodup) :
    bans.eraseP (·.source == source)
      = bans.filter fun b => !(b.source == source) := by
  induction bans with
  | nil => rfl
  | cons b rest ih =>
      rw [List.map_cons, List.nodup_cons] at hnd
      by_cases hb : b.source = source
      · have hall : ∀ x ∈ rest, (!(x.source == source)) = true := by
          intro x hx
          have hne : x.source ≠ source := fun hxs =>
            hnd.1 (List.mem_map.mpr ⟨x, hx, by rw [hxs, hb]⟩)
          simpa using hne
        rw [List.eraseP_cons_of_pos (by simpa using hb),
          List.filter_cons_of_neg (by simpa using hb),
          List.filter_eq_self.mpr hall]
      · rw [List.eraseP_cons_of_neg (by simpa using hb),
          List.filter_cons_of_pos (by simpa using hb), ih hnd.2]

/-- A flush takes every ban away. -/
theorem flush_eq (r : Roll) :
    r.flush = (r.bans.filter (fun _ => true), r.keep fun _ => !true) := by
  unfold flush keep
  rw [List.filter_eq_self.mpr fun _ _ => rfl,
    List.filter_eq_nil_iff.mpr fun _ _ => by simp]

/-- Removing the ban of a source takes its bans away, which is one. -/
theorem remove_eq {r : Roll} (hr : r.Unique) (source : Address) :
    r.remove source = (r.get? source).map fun b =>
      (b, r.keep fun x => !(x.source == source)) := by
  unfold remove keep
  rw [eraseP_source source hr]

/-- Whatever is removed, the other bans are left. -/
theorem sublist_of_remove {r r' : Roll} {source : Address} {b : Ban}
    (h : r.remove source = some (b, r')) : r'.bans.Sublist r.bans := by
  unfold remove at h
  obtain ⟨found, -, heq⟩ := Option.map_eq_some_iff.1 h
  rw [← (Prod.mk.inj heq).2]
  exact List.eraseP_sublist

/-- A source without a ban has none among fewer bans. -/
theorem get?_eq_none_of_sublist {r r' : Roll} {source : Address}
    (hr : r'.bans.Sublist r.bans) (h : r.get? source = none) :
    r'.get? source = none :=
  List.find?_eq_none.2 fun b hb => List.find?_eq_none.1 h b (hr.mem hb)

-- ===================================================== adding a ban

/-- A source without a ban gets one, behind the others. -/
theorem add_of_absent {r : Roll} {b : Ban}
    (h : r.get? b.source = none) :
    r.add b = (.banned,
      { r with bans := r.bans ++ [b], total := r.total + 1 }) := by
  have habsent : ∀ x ∈ r.bans, x.source ≠ b.source := by
    intro x hx
    simpa using List.find?_eq_none.mp h x hx
  simp [add, setIn_of_absent habsent]

/-- A ban that is set and taken away again leaves the bans as they were,
and stays counted. -/
theorem remove_add_of_absent {r : Roll} {b : Ban}
    (h : r.get? b.source = none) :
    (r.add b).2.remove b.source
      = some (b, { r with total := r.total + 1 }) := by
  have habsent : ∀ x ∈ r.bans, ¬ (x.source == b.source) = true :=
    List.find?_eq_none.mp h
  rw [add_of_absent h]
  unfold remove get?
  rw [List.find?_append, show r.bans.find? (·.source == b.source) = none
    from h, List.eraseP_append_right _ habsent]
  simp

/-- A source with a ban gets no other, and no event changes. -/
theorem add_of_present {r : Roll} {b old : Ban}
    (h : r.get? b.source = some old) :
    (r.add b).1 ≠ .banned ∧ (r.add b).2.events = r.events := by
  have hpresent : ∃ x ∈ r.bans, x.source = b.source :=
    ⟨old, List.mem_of_find?_eq_some h, source_of_get? h⟩
  obtain ⟨heffect, hmap⟩ := setIn_of_present hpresent
  refine ⟨heffect, ?_⟩
  exact hmap (fun x => (x.source, x.event)) fun _ _ => rfl

/-- A ban is new exactly when its source had none. -/
theorem add_effect_iff (r : Roll) (b : Ban) :
    (r.add b).1 = .banned ↔ r.get? b.source = none := by
  constructor
  · intro heffect
    cases h : r.get? b.source with
    | none => rfl
    | some old => exact absurd heffect (add_of_present h).1
  · intro h
    rw [add_of_absent h]

/-- Adding a ban leaves no source with two. -/
theorem Unique.add {r : Roll} (hr : r.Unique) (b : Ban) :
    (r.add b).2.Unique := by
  cases h : r.get? b.source with
  | none =>
      rw [add_of_absent h]
      show ((r.bans ++ [b]).map Ban.source).Nodup
      rw [List.map_append, List.nodup_append]
      refine ⟨hr, by simp, ?_⟩
      intro a ha c hc hac
      obtain ⟨x, hx, hxs⟩ := List.mem_map.mp ha
      have hxb : x.source = b.source := by
        rw [hxs, hac]
        simpa using hc
      exact absurd hxb (by simpa using List.find?_eq_none.mp h x hx)
  | some old => exact hr.of_events (add_of_present h).2

/-- A source that is banned again has its ban extended, or a new one. -/
theorem get?_add_self (r : Roll) (b : Ban) :
    (r.add b).2.get? b.source
      = some (match r.get? b.source with
        | some old => (extend old b).1
        | none => b) := by
  show (setIn b r.bans).1.find? (·.source == b.source)
    = some (match r.bans.find? (·.source == b.source) with
      | some old => (extend old b).1
      | none => b)
  induction r.bans with
  | nil => simp [setIn]
  | cons x rest ih =>
      by_cases hx : x.source = b.source
      · have hlonger : (extend x b).1.source = b.source :=
          (extend_map Ban.source (fun _ _ => rfl) x b).trans hx
        rw [setIn, if_pos hx, List.find?_cons_of_pos (by simpa using hlonger),
          List.find?_cons_of_pos (by simpa using hx)]
      · rw [setIn, if_neg hx, List.find?_cons_of_neg (by simpa using hx),
          List.find?_cons_of_neg (by simpa using hx), ih]

/-- A source has a ban when it is among the sources. -/
theorem isSome_get?_iff (r : Roll) (source : Address) :
    (r.get? source).isSome = true ↔ source ∈ r.sources := by
  unfold get? sources
  rw [List.find?_isSome, List.mem_map]
  simp only [beq_iff_eq]

/-- After a ban is added, its source has one, and the others are as
before. -/
theorem isSome_get?_add (r : Roll) (b : Ban) (source : Address) :
    ((r.add b).2.get? source).isSome
      = ((r.get? source).isSome || decide (b.source = source)) := by
  rw [Bool.eq_iff_iff, Bool.or_eq_true, decide_eq_true_iff,
    isSome_get?_iff, isSome_get?_iff]
  cases hget : r.get? b.source with
  | none =>
      have hsources : (r.add b).2.sources = r.sources ++ [b.source] := by
        rw [add_of_absent hget]
        exact List.map_append
      rw [hsources, List.mem_append, List.mem_singleton, eq_comm]
  | some old =>
      have hmem : b.source ∈ r.sources :=
        (isSome_get?_iff r b.source).1 (by rw [hget]; rfl)
      rw [sources_eq_events, (add_of_present hget).2, ← sources_eq_events]
      refine ⟨Or.inl, fun h => ?_⟩
      rcases h with h | rfl
      · exact h
      · exact hmem

end Roll

end Gatewatch.Ban
