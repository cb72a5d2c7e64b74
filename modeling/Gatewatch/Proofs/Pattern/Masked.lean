/-
A pattern under a mask.

A mask writes one character for another of the same width, as a zero for
any digit. A set is blind to a mask when it has a character exactly when
it has what the mask writes for it, and a condition when it holds at the
same places. A node whose parts are all blind goes through the masked
text as it goes through the text: each helper of the matcher carries the
mask through (`reach_masked`, `follow_masked`, `walkRounds_masked`,
`walkAtMost_masked`), so the threads of a node are the same but for the
mask (`threads_masked`), and what it finds lies at the same place
(`find_masked`). One masked text then stands for all the texts that it
may have come from.
-/
import Gatewatch.Pattern.Basic

namespace Gatewatch.Pattern

variable {mask : Char → Char}

-- ============================================================= masking

/-- A place in the masked text. -/
def Cursor.masked (mask : Char → Char) (c : Cursor) : Cursor :=
  ⟨c.before.map mask, c.rest.map mask, c.offset⟩

/-- A thread in the masked text. -/
def Thread.masked (mask : Char → Char) (t : Thread) : Thread :=
  ⟨t.cursor.masked mask, t.groups⟩

@[simp] theorem Thread.offset_masked (t : Thread) :
    (t.masked mask).cursor.offset = t.cursor.offset := rfl

/-- A set that does not tell what is masked from the mask. -/
def CharSet.Blind (mask : Char → Char) (s : CharSet) : Prop :=
  ∀ c, s.has (mask c) = s.has c

/-- A condition that does not tell the masked text from the text. -/
def Look.Blind (mask : Char → Char) (l : Look) : Prop :=
  ∀ c : Cursor, l.holds (c.masked mask) = l.holds c

/-- The start of a text is where it was. -/
theorem Look.blind_textStart : Look.textStart.Blind mask := fun _ =>
  Option.isNone_map

namespace Node

/-- The sets in a node. -/
def sets : Node → List CharSet
  | empty | look _ => []
  | set s | run s _ _ _ => [s]
  | seq a b | alt a b => a.sets ++ b.sets
  | many a _ | times _ a | atMost _ a _ | group _ _ a => a.sets

/-- The conditions in a node. -/
def looks : Node → List Look
  | empty | set _ | run _ _ _ _ => []
  | look l => [l]
  | seq a b | alt a b => a.looks ++ b.looks
  | many a _ | times _ a | atMost _ a _ | group _ _ a => a.looks

/-- A node that does not tell what is masked from the mask. -/
structure Blind (mask : Char → Char) (a : Node) : Prop where
  sets : ∀ s ∈ a.sets, s.Blind mask
  looks : ∀ l ∈ a.looks, l.Blind mask

/-- Two nodes are blind when their sets and conditions together are. -/
theorem Blind.split {a b c : Node} (h : c.Blind mask)
    (hsets : c.sets = a.sets ++ b.sets)
    (hlooks : c.looks = a.looks ++ b.looks) : a.Blind mask ∧ b.Blind mask := by
  obtain ⟨hs, hl⟩ := h
  rw [hsets, List.forall_mem_append] at hs
  rw [hlooks, List.forall_mem_append] at hl
  exact ⟨⟨hs.1, hl.1⟩, ⟨hs.2, hl.2⟩⟩

-- ============================================================== helpers

/-- What is done with some threads, one after the other, carries the mask
through when each step does. -/
theorem foldl_masked {σ : Type} {m : σ → σ} {go : σ → Thread → σ}
    (h : ∀ w r, go (m w) (r.masked mask) = m (go w r)) (rs : List Thread)
    (w : σ) :
    (rs.map (Thread.masked mask)).foldl go (m w) = m (rs.foldl go w) := by
  induction rs generalizing w with
  | nil => rfl
  | cons r rs ih => rw [List.map_cons, List.foldl_cons, h, ih, List.foldl_cons]

/-- The threads gathered in the masked text. -/
def Gathered.masked (mask : Char → Char) (g : Gathered) : Gathered :=
  ⟨g.seen, g.kept.map (Thread.masked mask)⟩

/-- A walk in the masked text. -/
def Walk.masked (mask : Char → Char) (w : Walk) : Walk :=
  ⟨w.ended, w.left.map (Thread.masked mask)⟩

/-- A bounded walk in the masked text. -/
def BoundedWalk.masked (mask : Char → Char) (w : BoundedWalk) : BoundedWalk :=
  ⟨w.begun, w.left.map (Thread.masked mask)⟩

/-- Whether a thread is kept depends on the places alone. -/
theorem add_masked (g : Gathered) (r : Thread) :
    (g.masked mask).add (r.masked mask) = (g.add r).masked mask := by
  unfold Gathered.add Gathered.masked Thread.masked Cursor.masked
  dsimp only
  split <;> rfl

section Helpers

variable {body : Thread → List Thread}
  (hbody : ∀ t, body (t.masked mask) = (body t).map (Thread.masked mask))
include hbody

theorem follow_masked (ts : List Thread) :
    follow body (ts.map (Thread.masked mask))
      = (follow body ts).map (Thread.masked mask) := by
  have hgather : ∀ (g : Gathered) (t : Thread),
      (body (t.masked mask)).foldl Gathered.add (g.masked mask)
        = ((body t).foldl Gathered.add g).masked mask := by
    intro g t
    rw [hbody, foldl_masked add_masked]
  match ts with
  | [] => rfl
  | [t] => exact hbody t
  | t :: u :: ts =>
      have hfold : ((t :: u :: ts).map (Thread.masked mask)).foldl
          (fun g t => (body t).foldl Gathered.add g)
            (Gathered.masked mask {})
            = ((t :: u :: ts).foldl
              (fun g t => (body t).foldl Gathered.add g) {}).masked mask :=
        foldl_masked hgather (t :: u :: ts) _
      unfold follow
      dsimp only
      rw [List.map_reverse]
      exact congrArg (fun g => g.kept.reverse) hfold

theorem afterRounds_masked (n : Nat) (ts : List Thread) :
    afterRounds body n (ts.map (Thread.masked mask))
      = (afterRounds body n ts).map (Thread.masked mask) := by
  induction n generalizing ts with
  | zero => rfl
  | succ n ih => rw [afterRounds, follow_masked hbody, ih, afterRounds]

theorem walkRounds_masked (greedy : Bool) (fuel : Nat) (t : Thread)
    (w : Walk) :
    walkRounds body greedy fuel (t.masked mask) (w.masked mask)
      = (walkRounds body greedy fuel t w).masked mask := by
  induction fuel generalizing t w with
  | zero => rfl
  | succ fuel ih =>
      rw [walkRounds, walkRounds, hbody]
      refine foldl_masked (fun w r => ?_) (body t) w
      have hwalk : ∀ (ended : Places) (left : List Thread),
          walkRounds body greedy fuel (r.masked mask)
              ⟨ended, left.map (Thread.masked mask)⟩
            = (walkRounds body greedy fuel r ⟨ended, left⟩).masked mask :=
        fun ended left => ih r ⟨ended, left⟩
      have hmarks : (w.masked mask).ended = w.ended := rfl
      rw [hmarks, Thread.offset_masked, Thread.offset_masked]
      by_cases hended : w.ended.has r.cursor.offset = true
      · rw [if_pos hended, if_pos hended]
      · rw [if_neg hended, if_neg hended]
        by_cases hfar : t.cursor.offset < r.cursor.offset
        · rw [if_pos hfar, if_pos hfar]
          cases greedy
          · exact hwalk _ (r :: w.left)
          · exact congrArg (fun w : Walk =>
              { w with left := r.masked mask :: w.left }) (hwalk _ w.left)
        · rw [if_neg hfar, if_neg hfar]
          rfl

theorem walkAtMost_masked (greedy : Bool) (n : Nat) (t : Thread)
    (w : BoundedWalk) :
    walkAtMost body greedy n (t.masked mask) (w.masked mask)
      = (walkAtMost body greedy n t w).masked mask := by
  induction n generalizing t w with
  | zero => rfl
  | succ n ih =>
      have hround : ∀ w : BoundedWalk,
          (body (t.masked mask)).foldl
              (fun w r => walkAtMost body greedy n r w) (w.masked mask)
            = ((body t).foldl (fun w r => walkAtMost body greedy n r w)
              w).masked mask := by
        intro w
        rw [hbody]
        exact foldl_masked (fun w r => ih r w) (body t) w
      rw [walkAtMost, walkAtMost]
      have hmarks : (w.masked mask).begun = w.begun := rfl
      rw [hmarks, Thread.offset_masked]
      by_cases hbegun : w.begun.contains (n + 1, t.cursor.offset) = true
      · rw [if_pos hbegun, if_pos hbegun]
      · rw [if_neg hbegun, if_neg hbegun]
        cases greedy
        · exact hround ⟨_, t :: w.left⟩
        · exact congrArg (fun w : BoundedWalk =>
            { w with left := t.masked mask :: w.left }) (hround ⟨_, w.left⟩)

end Helpers

-- ============================================================== matches

section Match

variable (hsize : ∀ c, (mask c).utf8Size = c.utf8Size)
include hsize

theorem step_masked (c : Cursor) (ch : Char) (rest : List Char) :
    (c.masked mask).step (mask ch) (rest.map mask)
      = (c.step ch rest).masked mask := by
  unfold Cursor.step Cursor.masked
  rw [hsize]
  rfl

theorem accept?_masked {s : CharSet} (hs : s.Blind mask) (c : Cursor) :
    (c.masked mask).accept? s = (c.accept? s).map (Cursor.masked mask) := by
  have hrest : (c.masked mask).rest = c.rest.map mask := rfl
  unfold Cursor.accept?
  rw [hrest]
  cases c.rest with
  | nil => rfl
  | cons ch rest =>
      rw [List.map_cons]
      dsimp only
      rw [hs ch, step_masked hsize]
      split <;> rfl

theorem reach_masked {s : CharSet} (hs : s.Blind mask) (n : Nat)
    (c : Cursor) :
    (c.masked mask).reach s n = (c.reach s n).map (Cursor.masked mask) := by
  induction n generalizing c with
  | zero => rfl
  | succ n ih =>
      rw [Cursor.reach, Cursor.reach, accept?_masked hsize hs]
      cases c.accept? s with
      | none => rfl
      | some next => exact congrArg (c.masked mask :: ·) (ih next)

/-- A blind node has the same threads in the masked text. -/
theorem threads_masked {a : Node} (h : a.Blind mask) (t : Thread) :
    a.threads (t.masked mask) = (a.threads t).map (Thread.masked mask) := by
  induction a generalizing t with
  | empty => rfl
  | set s =>
      have hs : s.Blind mask := h.sets s List.mem_cons_self
      have hcursor : (t.masked mask).cursor = t.cursor.masked mask := rfl
      rw [threads, threads, hcursor, accept?_masked hsize hs]
      cases t.cursor.accept? s <;> rfl
  | look l =>
      have hl : l.Blind mask := h.looks l List.mem_cons_self
      have hcursor : (t.masked mask).cursor = t.cursor.masked mask := rfl
      rw [threads, threads, hcursor, hl]
      split <;> rfl
  | seq a b iha ihb =>
      obtain ⟨ha, hb⟩ := h.split rfl rfl
      rw [threads, threads, iha ha, follow_masked (ihb hb)]
  | alt a b iha ihb =>
      obtain ⟨ha, hb⟩ := h.split rfl rfl
      rw [threads, threads, iha ha, ihb hb, List.map_append]
  | run s low high greedy =>
      have hs : s.Blind mask := h.sets s List.mem_cons_self
      have hcursor : (t.masked mask).cursor = t.cursor.masked mask := rfl
      have hlength : (t.cursor.masked mask).rest.length
          = t.cursor.rest.length := List.length_map mask
      rw [threads, threads, hcursor, hlength, reach_masked hsize hs]
      rw [← List.map_drop, ← List.map_reverse,
        ← apply_ite (List.map (Cursor.masked mask)), List.map_map,
        List.map_map]
      rfl
  | many a greedy ih =>
      have hlength : (t.masked mask).cursor.rest.length
          = t.cursor.rest.length := List.length_map mask
      have hwalk := walkRounds_masked (ih ⟨h.sets, h.looks⟩) greedy
        (t.cursor.rest.length + 1) t {}
      rw [threads, threads, hlength, List.map_reverse]
      exact congrArg (fun w : Walk => w.left.reverse) hwalk
  | times n a ih =>
      exact afterRounds_masked (ih ⟨h.sets, h.looks⟩) n [t]
  | atMost n a greedy ih =>
      have hwalk := walkAtMost_masked (ih ⟨h.sets, h.looks⟩) greedy n t
        ⟨[], []⟩
      rw [threads, threads, List.map_reverse]
      exact congrArg (fun w : BoundedWalk => w.left.reverse) hwalk
  | group index name a ih =>
      rw [threads, threads, ih ⟨h.sets, h.looks⟩, List.map_map, List.map_map]
      rfl

/-- It has the same match at each place. -/
theorem matchAt?_masked {a : Node} (h : a.Blind mask) (c : Cursor) :
    a.matchAt? (c.masked mask) = a.matchAt? c := by
  have hthreads := threads_masked hsize h ⟨c, []⟩
  unfold Thread.masked at hthreads
  unfold matchAt?
  rw [hthreads, List.head?_map, Option.map_map]
  rfl

theorem findFrom_masked {a : Node} (h : a.Blind mask) (before : Option Char)
    (offset : Nat) (text : List Char) :
    a.findFrom (before.map mask) offset (text.map mask)
      = a.findFrom before offset text := by
  induction text generalizing before offset with
  | nil => exact matchAt?_masked hsize h ⟨before, [], offset⟩
  | cons ch text ih =>
      have hhere := matchAt?_masked hsize h ⟨before, ch :: text, offset⟩
      have hrest := ih (some ch) (offset + ch.utf8Size)
      unfold Cursor.masked at hhere
      rw [List.map_cons] at hhere
      rw [List.map_cons, findFrom, findFrom, hhere, hsize, ← hrest]
      rfl

/-- It finds the same in the masked text as in the text. -/
theorem find_masked {a : Node} (h : a.Blind mask) (text : List Char) :
    a.find (text.map mask) = a.find text :=
  findFrom_masked hsize h none 0 text

end Match

end Node

end Gatewatch.Pattern
