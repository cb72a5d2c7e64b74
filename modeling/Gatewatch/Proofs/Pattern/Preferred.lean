/-
The match that a node prefers.

A node may match a text in many ways, and of its threads only the first
one becomes the match. The first thread of a sequence is that of the
second node behind the first thread of the first node from which the
second node can go on (`first_seq`): when the preferred end of each part
lets the next part go on, the others are never asked
(`head?_follow_of_head?`).

# Repetitions

A run takes all the characters it can and gives them back one by one
(`threads_run`). A bounded repetition follows its body as deep as it goes,
the preferred thread each time, and ends there (`first_atMost`): the
places where its rounds began are kept with the rounds that were left, and
those count down along the path, so the first path is never cut off.
-/
import Gatewatch.Pattern.Basic

namespace Gatewatch.Pattern

-- ======================================================= moving forward

/-- The place some characters further on, or the end of the text. -/
def Cursor.past : Cursor → Nat → Cursor
  | c, 0 => c
  | c, n + 1 => match c.rest with
    | [] => c
    | ch :: rest => (c.step ch rest).past n

namespace Cursor

theorem past_cons {c : Cursor} {ch : Char} {rest : List Char}
    (h : c.rest = ch :: rest) (n : Nat) :
    c.past (n + 1) = (c.step ch rest).past n := by
  rw [past, h]

theorem rest_past (c : Cursor) (n : Nat) :
    (c.past n).rest = c.rest.drop n := by
  induction n generalizing c with
  | zero => rfl
  | succ n ih =>
      cases hrest : c.rest with
      | nil => rw [past, hrest, List.drop_nil, hrest]
      | cons ch rest =>
          rw [past_cons hrest, ih, List.drop_succ_cons]
          rfl

theorem offset_past (c : Cursor) (n : Nat) :
    (c.past n).offset = c.offset + Text.width (c.rest.take n) := by
  induction n generalizing c with
  | zero => rfl
  | succ n ih =>
      cases hrest : c.rest with
      | nil => rw [past, hrest, List.take_nil]; rfl
      | cons ch rest =>
          rw [past_cons hrest, ih, List.take_succ_cons, Text.width_cons,
            ← Nat.add_assoc]
          rfl

theorem past_add (c : Cursor) (m n : Nat) :
    c.past (m + n) = (c.past m).past n := by
  induction m generalizing c with
  | zero => rw [Nat.zero_add]; rfl
  | succ m ih =>
      cases hrest : c.rest with
      | nil =>
          have hstay : ∀ k, c.past k = c := fun k => by
            cases k with
            | zero => rfl
            | succ k => rw [past, hrest]
          rw [hstay, hstay, hstay]
      | cons ch rest =>
          rw [Nat.add_right_comm, past_cons hrest, past_cons hrest, ih]

/-- A run can end behind each of the characters of its set in front, up
to the bound. -/
theorem reach_eq (set : CharSet) (n : Nat) (c : Cursor) :
    c.reach set n
      = (List.range (min n (c.rest.takeWhile set.has).length + 1)).map
        c.past := by
  induction n generalizing c with
  | zero => rw [Nat.zero_min]; rfl
  | succ n ih =>
      cases hrest : c.rest with
      | nil => simp [reach, accept?, hrest, past]
      | cons ch rest =>
          by_cases hset : set.has ch = true
          · rw [List.takeWhile_cons_of_pos hset, List.length_cons,
              Nat.add_min_add_right, List.range_succ_eq_map, List.map_cons,
              List.map_map]
            have hmore : ∀ k, (c.past ∘ Nat.succ) k
                = (c.step ch rest).past k := fun k => past_cons hrest k
            rw [List.map_congr_left fun k _ => hmore k]
            have hnext := ih (c.step ch rest)
            simp only [reach, accept?, hrest, hset, if_true]
            rw [hnext]
            rfl
          · rw [List.takeWhile_cons_of_neg hset]
            simp [reach, accept?, hrest, hset, past]

end Cursor

/-- The thread some characters further on. -/
def Thread.past (t : Thread) (n : Nat) : Thread :=
  { t with cursor := t.cursor.past n }

namespace Thread

@[simp] theorem rest_past (t : Thread) (n : Nat) :
    (t.past n).cursor.rest = t.cursor.rest.drop n :=
  t.cursor.rest_past n

theorem past_past (t : Thread) (m n : Nat) :
    (t.past m).past n = t.past (m + n) := by
  unfold past
  rw [Cursor.past_add]

/-- Behind the first of two parts comes the second. -/
theorem rest_past_length {t : Thread} {a b : List Char}
    (h : t.cursor.rest = a ++ b) : (t.past a.length).cursor.rest = b := by
  rw [rest_past, h, List.drop_left]

end Thread

-- =========================================================== the first

namespace Node

/-- The thread that a node prefers, if it has one. -/
def first (a : Node) (t : Thread) : Option Thread := (a.threads t).head?

/-- What is gathered first stays first. -/
theorem getLast?_foldl_add (rs : List Thread) {g : Gathered}
    (hg : g.kept ≠ []) :
    ((rs.foldl Gathered.add g).kept).getLast? = g.kept.getLast?
      ∧ (rs.foldl Gathered.add g).kept ≠ [] := by
  induction rs generalizing g with
  | nil => exact ⟨rfl, hg⟩
  | cons r rs ih =>
      have hadd : (g.add r).kept.getLast? = g.kept.getLast?
          ∧ (g.add r).kept ≠ [] := by
        unfold Gathered.add
        split
        · exact ⟨rfl, hg⟩
        · exact ⟨List.getLast?_cons_of_ne_nil hg, List.cons_ne_nil _ _⟩
      obtain ⟨hlast, hne⟩ := ih hadd.2
      exact ⟨hlast.trans hadd.1, hne⟩

/-- Gathering from nothing keeps the first of all. -/
theorem getLast?_gather (next : Thread → List Thread) (ts : List Thread) :
    (ts.foldl (fun g t => (next t).foldl Gathered.add g) {}).kept.getLast?
      = (ts.flatMap next).head? := by
  rw [← List.foldl_flatMap]
  cases ts.flatMap next with
  | nil => rfl
  | cons r rs =>
      have hfirst : (Gathered.add {} r).kept = [r] := by
        have hseen : ({} : Places).has r.cursor.offset = false := by
          unfold Places.has
          exact Nat.zero_testBit _
        unfold Gathered.add
        rw [if_neg (by rw [hseen]; nofun)]
      obtain ⟨hlast, -⟩ := getLast?_foldl_add rs
        (g := Gathered.add {} r) (by rw [hfirst]; nofun)
      rw [List.foldl_cons, hlast, hfirst]
      rfl

/-- Of the threads that follow others, the first is kept. -/
theorem head?_follow (next : Thread → List Thread) (ts : List Thread) :
    (follow next ts).head? = ts.findSome? fun t => (next t).head? := by
  rw [← List.head?_flatMap]
  unfold follow
  split
  · rfl
  · rw [List.flatMap_singleton]
  · rw [List.head?_reverse, getLast?_gather]

/-- Each thread that is kept follows one of the others. -/
theorem of_mem_follow {next : Thread → List Thread} {ts : List Thread}
    {r : Thread} (h : r ∈ follow next ts) : ∃ t ∈ ts, r ∈ next t := by
  have hgather : ∀ (rs : List Thread) (g : Gathered),
      r ∈ (rs.foldl Gathered.add g).kept → r ∈ rs ∨ r ∈ g.kept := by
    intro rs
    induction rs with
    | nil => exact fun g hg => .inr hg
    | cons x rs ih =>
        intro g hg
        rcases ih _ hg with hmem | hmem
        · exact .inl (List.mem_cons_of_mem x hmem)
        · unfold Gathered.add at hmem
          split at hmem
          · exact .inr hmem
          · rcases List.mem_cons.1 hmem with rfl | hmem
            · exact .inl List.mem_cons_self
            · exact .inr hmem
  unfold follow at h
  split at h
  case h_1 => cases h
  case h_2 t => exact ⟨t, List.mem_cons_self, h⟩
  case h_3 =>
    rw [List.mem_reverse, ← List.foldl_flatMap] at h
    rcases hgather _ _ h with hmem | hmem
    · exact List.mem_flatMap.1 hmem
    · cases hmem

/-- When the first of some threads can go on, so does the match. -/
theorem head?_follow_of_head? {next : Thread → List Thread}
    {ts : List Thread} {t r : Thread} (ht : ts.head? = some t)
    (hr : (next t).head? = some r) :
    (follow next ts).head? = some r := by
  obtain ⟨more, rfl⟩ := List.head?_eq_some_iff.1 ht
  rw [head?_follow, List.findSome?_cons, hr]

theorem first_seq_of_first {a b : Node} {t u r : Thread}
    (ha : a.first t = some u) (hb : b.first u = some r) :
    (seq a b).first t = some r :=
  head?_follow_of_head? ha hb

theorem first_seq (a b : Node) (t : Thread) :
    (seq a b).first t = (a.threads t).findSome? b.first :=
  head?_follow _ _

theorem first_alt (a b : Node) (t : Thread) :
    (alt a b).first t = (a.first t).or (b.first t) :=
  List.head?_append

theorem first_group (index : Nat) (name : Option String) (a : Node)
    (t : Thread) :
    (group index name a).first t = (a.first t).map fun r =>
      { r with groups :=
          (index, ⟨t.cursor.offset, r.cursor.offset⟩) :: r.groups } :=
  List.head?_map

theorem first_eq_none_iff {a : Node} {t : Thread} :
    a.first t = none ↔ a.threads t = [] :=
  List.head?_eq_none_iff

/-- The nodes of a list go on from each other's threads. -/
theorem threads_concat (nodes : List Node) (t : Thread) :
    (concat nodes).threads t
      = nodes.foldl (fun ts a => follow a.threads ts) [t] := by
  have hfold : ∀ (nodes : List Node) (a : Node),
      (nodes.foldl seq a).threads t
        = nodes.foldl (fun ts a => follow a.threads ts) (a.threads t) := by
    intro nodes
    induction nodes with
    | nil => exact fun a => rfl
    | cons b nodes ih => exact fun a => ih (seq a b)
  cases nodes with
  | nil => rfl
  | cons a nodes => exact hfold nodes a

/-- Their groups are those of a list, in the same order. -/
theorem groupNames_concat (nodes : List Node) :
    (concat nodes).groupNames = nodes.flatMap groupNames := by
  have hfold : ∀ (nodes : List Node) (a : Node),
      (nodes.foldl seq a).groupNames
        = a.groupNames ++ nodes.flatMap groupNames := by
    intro nodes
    induction nodes with
    | nil => exact fun a => (List.append_nil _).symm
    | cons b nodes ih =>
        intro a
        rw [List.foldl_cons, ih, List.flatMap_cons, ← List.append_assoc]
        rfl
  cases nodes with
  | nil => rfl
  | cons a nodes => exact hfold nodes a

/-- A character is taken by a set that has it. -/
theorem threads_set_cons {s : CharSet} {t : Thread} {c : Char}
    {rest : List Char} (h : t.cursor.rest = c :: rest) :
    (set s).threads t = if s.has c then [t.past 1] else [] := by
  have hpast : t.past 1 = { t with cursor := t.cursor.step c rest } := by
    unfold Thread.past
    rw [Cursor.past_cons h]
    rfl
  unfold threads Cursor.accept?
  rw [h, hpast]
  by_cases hs : s.has c = true
  · simp [hs]
  · simp [hs]

theorem threads_set_nil {s : CharSet} {t : Thread}
    (h : t.cursor.rest = []) : (set s).threads t = [] := by
  unfold threads Cursor.accept?
  rw [h]

/-- A character that was taken is one of the set. -/
theorem of_mem_set {s : CharSet} {t u : Thread}
    (h : u ∈ (set s).threads t) :
    ∃ c rest, t.cursor.rest = c :: rest ∧ s.has c = true
      ∧ u = t.past 1 := by
  cases hrest : t.cursor.rest with
  | nil =>
      rw [threads_set_nil hrest] at h
      cases h
  | cons c rest =>
      rw [threads_set_cons hrest] at h
      split at h
      case isTrue hc => exact ⟨c, rest, rfl, hc, List.mem_singleton.1 h⟩
      case isFalse => cases h

/-- A run ends behind all the characters it can take, and then behind one
less each time. -/
theorem threads_run (s : CharSet) (low : Nat) (high : Option Nat)
    (t : Thread) :
    (run s low high true).threads t
      = (((List.range (min (high.getD t.cursor.rest.length)
          (t.cursor.rest.takeWhile s.has).length + 1)).drop low).map
            t.past).reverse := by
  unfold threads
  dsimp only
  rw [Cursor.reach_eq, if_pos rfl, ← List.map_drop, List.map_reverse,
    List.map_map]
  rfl

/-- A run prefers to end behind all the characters it can take. -/
theorem first_run {s : CharSet} {low : Nat} {high : Option Nat} {t : Thread}
    (hlow : low ≤ min (high.getD t.cursor.rest.length)
      (t.cursor.rest.takeWhile s.has).length) :
    (run s low high true).first t
      = some (t.past (min (high.getD t.cursor.rest.length)
        (t.cursor.rest.takeWhile s.has).length)) := by
  unfold first
  rw [threads_run, List.head?_reverse, List.getLast?_map, List.getLast?_drop,
    List.length_range, if_neg (by omega), List.range_succ,
    List.getLast?_concat]
  rfl

theorem of_mem_run {s : CharSet} {low : Nat} {high : Option Nat}
    {t u : Thread} (h : u ∈ (run s low high true).threads t) :
    ∃ n, low ≤ n ∧ n ≤ (t.cursor.rest.takeWhile s.has).length
      ∧ u = t.past n := by
  rw [threads_run, List.mem_reverse] at h
  obtain ⟨n, hn, rfl⟩ := List.mem_map.1 h
  obtain ⟨k, hk, rfl⟩ := List.mem_iff_getElem.1 hn
  rw [List.length_drop, List.length_range] at hk
  refine ⟨_, ?_, ?_, rfl⟩
  · rw [List.getElem_drop, List.getElem_range]
    omega
  · rw [List.getElem_drop, List.getElem_range]
    omega

-- ======================================================== repetitions

/-- The preferred thread through some rounds, if each has one. -/
def along (body : Thread → Option Thread) : Nat → Thread → Option Thread
  | 0, t => some t
  | n + 1, t => (body t).bind (along body n)

/-- A repetition follows the preferred thread, if there is one all the
way. -/
theorem first_times {a : Node} {n : Nat} {t r : Thread}
    (h : along a.first n t = some r) : (times n a).first t = some r := by
  have hrounds : ∀ (n : Nat) (t : Thread) (ts : List Thread),
      ts.head? = some t → along a.first n t = some r →
        (afterRounds a.threads n ts).head? = some r := by
    intro n
    induction n with
    | zero => exact fun t ts ht h => ht.trans h
    | succ n ih =>
        intro t ts ht h
        obtain ⟨u, hu, hmore⟩ := Option.bind_eq_some_iff.1 h
        exact ih u _ (head?_follow_of_head? ht hu) hmore
  exact hrounds n t [t] rfl h

/-- The preferred thread through as many rounds as there are. -/
def deepest (body : Thread → Option Thread) : Nat → Thread → Thread
  | 0, t => t
  | n + 1, t => match body t with
    | some u => deepest body n u
    | none => t

/-- A walk through a list of threads leaves one after the other. -/
theorem foldl_left {walk : Thread → BoundedWalk → BoundedWalk}
    (hwalk : ∀ t w, ∃ more, (walk t w).left = more ++ w.left)
    (ts : List Thread) (w : BoundedWalk) :
    ∃ more, (ts.foldl (fun w t => walk t w) w).left = more ++ w.left := by
  induction ts generalizing w with
  | nil => exact ⟨[], rfl⟩
  | cons t ts ih =>
      obtain ⟨front, hfront⟩ := ih (walk t w)
      obtain ⟨back, hback⟩ := hwalk t w
      exact ⟨front ++ back, by
        rw [List.foldl_cons, hfront, hback, List.append_assoc]⟩

theorem walkAtMost_left (body : Thread → List Thread) (n : Nat)
    (t : Thread) (w : BoundedWalk) :
    ∃ more, (walkAtMost body true n t w).left = more ++ w.left := by
  induction n generalizing t w with
  | zero => exact ⟨[t], rfl⟩
  | succ n ih =>
      unfold walkAtMost
      split
      · exact ⟨[], rfl⟩
      · obtain ⟨more, hmore⟩ := foldl_left ih (body t)
          { w with begun := (n + 1, t.cursor.offset) :: w.begun }
        exact ⟨t :: more, congrArg (t :: ·) hmore⟩

/-- The first thread to leave a walk is the deepest one: no round with
so few rounds left has begun before. -/
theorem walkAtMost_deepest (body : Thread → List Thread) (n : Nat)
    (t : Thread) (w : BoundedWalk) (hw : ∀ k ∈ w.begun, n < k.1) :
    ∃ more, (walkAtMost body true n t w).left
      = more ++ deepest (fun t => (body t).head?) n t :: w.left := by
  induction n generalizing t w with
  | zero => exact ⟨[], rfl⟩
  | succ n ih =>
      have hnew : w.begun.contains (n + 1, t.cursor.offset) = false := by
        rw [List.contains_eq_mem, decide_eq_false_iff_not]
        exact fun hmem => Nat.lt_irrefl _ (hw _ hmem)
      unfold walkAtMost deepest
      rw [if_neg (by rw [hnew]; nofun)]
      dsimp only
      rw [if_pos rfl]
      cases body t with
      | nil => exact ⟨[], rfl⟩
      | cons u us =>
          have hbegun : ∀ k ∈ (n + 1, t.cursor.offset) :: w.begun,
              n < k.1 := by
            intro k hk
            rcases List.mem_cons.1 hk with rfl | hk
            · exact Nat.lt_succ_self n
            · exact Nat.lt_of_succ_lt (hw k hk)
          obtain ⟨back, hback⟩ := ih u ⟨_, w.left⟩ hbegun
          obtain ⟨front, hfront⟩ :=
            foldl_left (walkAtMost_left body n) us
              (walkAtMost body true n u ⟨_, w.left⟩)
          refine ⟨t :: (front ++ back), ?_⟩
          rw [List.foldl_cons]
          dsimp only at hfront hback ⊢
          rw [hfront, hback]
          simp

theorem first_atMost (n : Nat) (a : Node) (t : Thread) :
    (atMost n a true).first t = some (deepest a.first n t) := by
  obtain ⟨more, hmore⟩ := walkAtMost_deepest a.threads n t ⟨[], []⟩ nofun
  show (walkAtMost a.threads true n t ⟨[], []⟩).left.reverse.head? = _
  rw [hmore, List.head?_reverse, List.getLast?_append]
  rfl

-- ============================================================ the match

/-- A match at the start of a text is the first one. -/
theorem find_of_matchAt? {a : Node} {text : List Char} {m : Match}
    (h : a.matchAt? (.start text) = some m) : a.find text = some m := by
  unfold Node.find
  cases text with
  | nil => exact h
  | cons c text =>
      unfold Node.findFrom
      have h' : a.matchAt? ⟨none, c :: text, 0⟩ = some m := h
      rw [h']

end Node

end Gatewatch.Pattern
