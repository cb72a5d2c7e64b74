/-
What the table of offences counts, told from its history.

# The second account

The table sees one offence at a time. The account here looks back: of the
offences of a source that were added since its entry was last removed
(`Table.since`), the first is an anchor, and after each anchor the first
one that comes more than `window` seconds later is the next. The current
window is what stands from the last anchor on (`currentWindow`).

# The invariant

`Table.Accounts` says of one source that its entry sums up its current
window (`Entry.SumsUp`), and that it has an entry exactly when there is
something to sum up. A step that removes entries keeps or drops the entry
of a source as a whole, so only adding has to be looked at, where the
last time seen is the delicate part: a new window does not reset it. That
is harmless because a window ends with the first offence that is later
than all times the window could hold, so the time that is left over is
below the time of the new anchor (`Entry.SumsUp.count`). This needs the
window not to be negative.

# The bounds of words

Instants are words of 64 bits, and so is the beginning of the window that
ends with an offence. Where there is no room for it the table compares
with a time that lies far ahead, and begins a window that should not
begin (`earliest_attempts_are_split`). So an entry sums up its window as
long as no offence since it was made comes that early.
-/
import Gatewatch.Offence.Table
import Gatewatch.Proofs.Keyed
import Mathlib.Algebra.Ring.Nat

namespace Gatewatch.Offence

open Net (Address)

-- ============================================================ windows

/-- What is left after some offences were skipped is no longer than all
of them. -/
theorem length_lt_of_dropWhile {p : Offence → Bool} {anchor next : Offence}
    {later rest : List Offence} (h : later.dropWhile p = next :: rest) :
    (next :: rest).length < (anchor :: later).length := by
  have hle := (List.dropWhile_sublist p (l := later)).length_le
  rw [h] at hle
  exact Nat.lt_succ_of_le hle

/-- The offences of the current window. The first offence is an anchor,
and after each anchor so is the first offence that comes more than
`window` seconds later; the window starts at the last anchor. -/
def currentWindow (window : Int) : List Offence → List Offence
  | [] => []
  | anchor :: later =>
    match _drop : later.dropWhile (·.time ≤ anchor.time + window) with
    | [] => anchor :: later
    | next :: rest => currentWindow window (next :: rest)
termination_by past => past.length
decreasing_by
  exact length_lt_of_dropWhile _drop

/-- One offence is its own window. -/
theorem currentWindow_single (window : Int) (o : Offence) :
    currentWindow window [o] = [o] := by
  rw [currentWindow]
  rfl

/-- A window that no later offence ends. -/
theorem currentWindow_of_within {window : Int} {anchor : Offence}
    {later : List Offence}
    (h : later.dropWhile (·.time ≤ anchor.time + window) = []) :
    currentWindow window (anchor :: later) = anchor :: later := by
  rw [currentWindow]
  split
  · rfl
  · rename_i heq
    rw [h] at heq
    cases heq

/-- A window that a later offence ends. -/
theorem currentWindow_of_beyond {window : Int} {anchor next : Offence}
    {later rest : List Offence}
    (h : later.dropWhile (·.time ≤ anchor.time + window) = next :: rest) :
    currentWindow window (anchor :: later)
      = currentWindow window (next :: rest) := by
  rw [currentWindow]
  split
  · rename_i heq
    rw [h] at heq
    cases heq
  · rename_i heq
    rw [h] at heq
    rw [heq]

/-- One more offence begins the next window or belongs to the current
one. -/
theorem currentWindow_concat (window : Int) (past : List Offence)
    (hne : past ≠ []) (o : Offence) :
    ∃ anchor later, currentWindow window past = anchor :: later
      ∧ currentWindow window (past ++ [o])
        = if anchor.time + window < o.time then [o]
          else anchor :: later ++ [o] := by
  have happend (later : List Offence) (p : Offence → Bool) :
      (later ++ [o]).dropWhile p
        = if (later.dropWhile p).isEmpty then [o].dropWhile p
          else later.dropWhile p ++ [o] := List.dropWhile_append
  fun_induction currentWindow window past with
  | case1 => exact absurd rfl hne
  | case2 anchor later hdrop =>
      specialize happend later (·.time ≤ anchor.time + window)
      rw [hdrop, if_pos List.isEmpty_nil] at happend
      refine ⟨anchor, later, rfl, ?_⟩
      rw [List.cons_append]
      by_cases ho : anchor.time + window < o.time
      · rw [List.dropWhile_cons_of_neg (by simpa using ho)] at happend
        rw [if_pos ho, currentWindow_of_beyond happend,
          currentWindow_single]
      · rw [List.dropWhile_cons_of_pos (by simpa using ho),
          List.dropWhile_nil] at happend
        rw [if_neg ho, currentWindow_of_within happend]
  | case3 anchor later next rest hdrop ih =>
      -- the window starts at a later anchor, and so does the longer one
      specialize happend later (·.time ≤ anchor.time + window)
      rw [hdrop, if_neg (by simp), List.cons_append] at happend
      rw [List.cons_append, currentWindow_of_beyond happend]
      exact ih nofun

-- ======================================================= one entry

/-- An entry sums up the offences of a window. -/
structure Entry.SumsUp (window : Int) (e : Entry) (past : List Offence) :
    Prop where
  attempts : e.attempts = min (past.map weight).sum maxAttempts
  lines : e.lines = past.flatMap Offence.lines
  first : past.head?.map Offence.time = some e.firstSeen
  last : (past.map Offence.time).max? = some e.lastSeen
  first_le_last : e.firstSeen ≤ e.lastSeen
  last_le : e.lastSeen ≤ e.firstSeen + window

namespace Entry.SumsUp

variable {window : Int} {e : Entry} {past : List Offence}

/-- A new entry sums up its only offence. -/
theorem start (hwindow : 0 ≤ window) (o : Offence) :
    ((Entry.start o).count o).SumsUp window [o] where
  attempts := by simp [Entry.start, Entry.count]
  lines := by simp [Entry.start, Entry.count]
  first := rfl
  last := by simp [Entry.start, Entry.count]
  first_le_last := by simp [Entry.start, Entry.count]
  last_le := by
    simp only [Entry.start, Entry.count, Int.max_self]
    omega

/-- An offence that comes too late for a window is a window of its own:
every time of the old one is below it. -/
theorem renewed (hwindow : 0 ≤ window) (he : e.SumsUp window past)
    {o : Offence} (hfits : Word.Fits 64 (o.time - window))
    (hlate : e.firstSeen + window < o.time) :
    ((e.renew window o).count o).SumsUp window [o] := by
  have hrenew : e.renew window o
      = { e with attempts := 0, firstSeen := o.time, lines := [] } :=
    if_pos (by rw [horizon_of_fits hfits]; omega)
  have hlast : max e.lastSeen o.time = o.time := by
    have := he.last_le
    omega
  rw [hrenew]
  exact {
    attempts := by simp [Entry.count]
    lines := by simp [Entry.count]
    first := rfl
    last := by simp [Entry.count, hlast]
    first_le_last := by simp [Entry.count, hlast]
    last_le := by
      simp only [Entry.count, hlast]
      omega }

/-- An offence that comes in time belongs to the window. -/
theorem grown (he : e.SumsUp window past) {o : Offence}
    (hfits : Word.Fits 64 (o.time - window))
    (htime : ¬ e.firstSeen + window < o.time) :
    ((e.renew window o).count o).SumsUp window (past ++ [o]) := by
  have hrenew : e.renew window o = e :=
    if_neg (by rw [horizon_of_fits hfits]; omega)
  have hfirst := he.first_le_last
  have hlast := he.last_le
  rw [hrenew]
  exact {
    attempts := by
      rw [List.map_append, List.sum_append]
      simp only [Entry.count, he.attempts, List.map_cons, List.map_nil,
        List.sum_cons, List.sum_nil]
      omega
    lines := by
      rw [List.flatMap_append]
      simp [Entry.count, he.lines]
    first := by
      obtain ⟨r, hr, htime⟩ := Option.map_eq_some_iff.1 he.first
      rw [List.head?_append, hr]
      exact congrArg some htime
    last := by
      obtain ⟨hmem, hmax⟩ := List.max?_eq_some_iff.1 he.last
      refine List.max?_eq_some_iff.2 ⟨?_, fun t ht => ?_⟩
      · simp only [Entry.count, List.map_append, List.mem_append,
          List.map_cons, List.map_nil, List.mem_singleton]
        rcases Int.le_total o.time e.lastSeen with h | h
        · exact .inl ((Int.max_eq_left h).symm ▸ hmem)
        · exact .inr (Int.max_eq_right h)
      · simp only [List.map_append, List.mem_append, List.map_cons,
          List.map_nil, List.mem_singleton] at ht
        simp only [Entry.count]
        rcases ht with ht | rfl
        · have := hmax t ht
          omega
        · omega
    first_le_last := by
      simp only [Entry.count]
      omega
    last_le := by
      simp only [Entry.count]
      omega }

/-- Counting one more offence keeps the sum of the current window. -/
theorem count (hwindow : 0 ≤ window) (hne : past ≠ [])
    (he : e.SumsUp window (currentWindow window past)) {o : Offence}
    (hfits : Word.Fits 64 (o.time - window)) :
    ((e.renew window o).count o).SumsUp window
      (currentWindow window (past ++ [o])) := by
  obtain ⟨anchor, later, hpast, hnext⟩ :=
    currentWindow_concat window past hne o
  have hfirst : anchor.time = e.firstSeen := by
    have := he.first
    rw [hpast] at this
    exact Option.some.inj this
  rw [hnext, hfirst]
  split
  · exact he.renewed hwindow hfits ‹_›
  · rw [← hpast]
    exact he.grown hfits ‹_›

end Entry.SumsUp

-- ========================================================= the table

namespace Table

/-- No source has two entries. -/
def Unique (t : Table) : Prop := (t.entries.map Entry.source).Nodup

/-- What is found for a source, when some entries are dropped. -/
theorem get?_filter {t : Table} (ht : t.Unique) (p : Entry → Bool)
    (source : Address) :
    { t with entries := t.entries.filter p }.get? source
      = (t.get? source).filter p :=
  Keyed.find?_filter ht p source

/-- Counting moves no entry, and adds one at most. -/
theorem sources_countIn (window : Int) (o : Offence)
    (entries : List Entry) :
    (countIn window o entries).map Entry.source
      = if o.source ∈ entries.map Entry.source
        then entries.map Entry.source
        else entries.map Entry.source ++ [o.source] := by
  induction entries with
  | nil => simp [countIn]
  | cons e rest ih =>
      by_cases he : e.source = o.source
      · simp [countIn, he]
      · have hne : o.source ≠ e.source := fun h => he h.symm
        rw [countIn, if_neg he, List.map_cons, ih]
        simp only [List.map_cons, List.mem_cons, hne, false_or]
        split <;> rfl

/-- Counting leaves no source with two entries. -/
theorem Unique.add {t : Table} (ht : t.Unique) (o : Offence) :
    (t.add o).Unique := by
  show ((countIn t.findTime o t.entries).map Entry.source).Nodup
  rw [sources_countIn]
  split
  · exact ht
  · rename_i hnew
    rw [List.nodup_append]
    refine ⟨ht, by simp, ?_⟩
    rintro a ha b hb rfl
    exact hnew (List.mem_singleton.1 hb ▸ ha)

/-- An offence is counted for its source, and for no other. -/
theorem get?_add (t : Table) (o : Offence) (source : Address) :
    (t.add o).get? source
      = if o.source = source then
          some (match t.get? source with
            | some e => (e.renew t.findTime o).count o
            | none => (Entry.start o).count o)
        else t.get? source := by
  show (countIn t.findTime o t.entries).find? (·.source == source)
    = if o.source = source then
        some (match t.entries.find? (·.source == source) with
          | some e => (e.renew t.findTime o).count o
          | none => (Entry.start o).count o)
      else t.entries.find? (·.source == source)
  induction t.entries with
  | nil =>
      by_cases ho : o.source = source <;> simp [countIn, ho]
  | cons e rest ih =>
      by_cases he : e.source = o.source
      · by_cases ho : o.source = source
        · simp [countIn, he, ho]
        · simp [countIn, he, ho]
      · rw [countIn, if_neg he]
        by_cases hs : e.source = source
        · have ho : o.source ≠ source := fun h => he (hs.trans h.symm)
          simp [hs, ho]
        · simp only [List.find?_cons, beq_eq_false_iff_ne.2 hs, ih]

-- ============================================================== runs

/-- One use of a table. -/
inductive Step where
  | add (o : Offence)
  | cleanup (now : Int)
  | next

/-- The table after a step. -/
def step (t : Table) : Step → Table
  | .add o => t.add o
  | .cleanup now => t.cleanup now
  | .next => match t.next with
    | some (_, u) => u
    | none => t

/-- The table after steps. -/
def run (t : Table) (steps : List Step) : Table := steps.foldl step t

/-- The offence that a step adds. -/
def Step.added? : Step → Option Offence
  | .add o => some o
  | _ => none

/-- Whether a step removes the entry of a source. -/
def removes (t : Table) (s : Step) (source : Address) : Bool :=
  (t.get? source).isSome && ((t.step s).get? source).isNone

/-- The offences of a source that were added since its entry was last
removed, in order; `past` holds those before the steps. -/
def since (source : Address) (past : List Offence) (t : Table) :
    List Step → List Offence
  | [] => past
  | s :: rest =>
    let kept := if t.removes s source then [] else past
    since source
      (kept ++ s.added?.toList.filter (·.source = source)) (t.step s) rest

/-- A step that adds nothing drops the entries that fail a test. -/
theorem step_eq_filter (t : Table) {s : Step} (hs : s.added? = none) :
    ∃ p, t.step s = { t with entries := t.entries.filter p } := by
  have hall : t = { t with entries := t.entries.filter fun _ => true } := by
    rw [List.filter_eq_self.2 fun _ _ => rfl]
  cases s with
  | add o => cases hs
  | cleanup now => exact ⟨_, rfl⟩
  | next =>
      unfold step next
      cases t.entries.find? t.isDue with
      | none => exact ⟨_, hall⟩
      | some e => exact ⟨_, rfl⟩

/-- There is room for the beginning of the window that ends with any of
some offences. -/
def Told (window : Int) (past : List Offence) : Prop :=
  ∀ o ∈ past, Word.Fits 64 (o.time - window)

instance (window : Int) (past : List Offence) :
    Decidable (Told window past) :=
  inferInstanceAs (Decidable (∀ o ∈ past, _))

/-- The table tells of a source what its history tells. -/
structure Accounts (window : Int) (t : Table) (source : Address)
    (past : List Offence) : Prop where
  findTime : t.findTime = window
  unique : t.Unique
  entry : match t.get? source with
    | none => past = []
    | some e => past ≠ [] ∧ (Told window past →
        e.SumsUp window (currentWindow window past))

namespace Accounts

variable {window : Int} {t : Table} {source : Address}
  {past : List Offence}

/-- An offence is added to the history of its source. -/
theorem add (hwindow : 0 ≤ window) (ha : Accounts window t source past)
    (o : Offence) :
    Accounts window (t.add o) source
      (past ++ [o].filter (·.source = source)) := by
  refine ⟨ha.findTime, ha.unique.add o, ?_⟩
  have hentry := ha.entry
  rw [get?_add, ha.findTime]
  by_cases ho : o.source = source
  · rw [if_pos ho, List.filter_cons_of_pos (by simpa using ho),
      List.filter_nil]
    refine ⟨by simp, ?_⟩
    cases hget : t.get? source with
    | none =>
        rw [hget] at hentry
        rw [show past = [] from hentry, List.nil_append,
          currentWindow_single]
        exact fun _ => .start hwindow o
    | some e =>
        rw [hget] at hentry
        intro htold
        obtain ⟨hpast, ho⟩ := List.forall_mem_append.1 htold
        exact (hentry.2 hpast).count hwindow hentry.1
          (ho o (List.mem_singleton_self o))
  · rw [if_neg ho, List.filter_cons_of_neg (by simpa using ho),
      List.filter_nil, List.append_nil]
    exact hentry

/-- An entry that is dropped takes its history with it. -/
theorem filter (ha : Accounts window t source past) (p : Entry → Bool) :
    Accounts window { t with entries := t.entries.filter p } source
      (if (t.get? source).isSome
          && ((t.get? source).filter p).isNone then [] else past) := by
  refine ⟨ha.findTime, ha.unique.sublist (List.filter_sublist.map _), ?_⟩
  have hentry := ha.entry
  rw [get?_filter ha.unique]
  cases hget : t.get? source with
  | none =>
      rw [hget] at hentry
      exact hentry
  | some e =>
      rw [hget] at hentry
      rw [Option.filter_some]
      cases p e with
      | true => exact hentry
      | false => exact rfl

/-- Every step keeps the account. -/
theorem step (hwindow : 0 ≤ window) (ha : Accounts window t source past)
    (s : Step) :
    Accounts window (t.step s) source
      ((if t.removes s source then [] else past)
        ++ s.added?.toList.filter (·.source = source)) := by
  cases hs : s.added? with
  | some o =>
      cases s with
      | cleanup now => cases hs
      | next => cases hs
      | add o' =>
          obtain rfl : o' = o := Option.some.inj hs
          have hkeep : t.removes (.add o') source = false := by
            show ((t.get? source).isSome
              && ((t.add o').get? source).isNone) = false
            rw [get?_add]
            split
            · exact Bool.and_false _
            · cases t.get? source <;> rfl
          rw [hkeep]
          exact ha.add hwindow o'
  | none =>
      obtain ⟨p, hp⟩ := t.step_eq_filter hs
      unfold removes
      rw [hp, get?_filter ha.unique]
      simpa using ha.filter p

/-- Every run keeps the account. -/
theorem run (hwindow : 0 ≤ window) (ha : Accounts window t source past)
    (steps : List Step) :
    Accounts window (t.run steps) source (since source past t steps) := by
  induction steps generalizing t past with
  | nil => exact ha
  | cons s rest ih => exact ih (ha.step hwindow s)

end Accounts

/-- The total grows with every offence that is added, and with nothing
else. -/
theorem total_run (t : Table) (steps : List Step) :
    (t.run steps).total
      = t.total + ((steps.filterMap Step.added?).map weight).sum := by
  induction steps generalizing t with
  | nil => simp [run]
  | cons s rest ih =>
      have hrun : t.run (s :: rest) = (t.step s).run rest := rfl
      cases hs : s.added? with
      | none =>
          obtain ⟨p, hp⟩ := t.step_eq_filter hs
          rw [hrun, ih, List.filterMap_cons_none hs, hp]
      | some o =>
          obtain rfl : s = .add o := by
            cases s with
            | add o' => exact congrArg Step.add (Option.some.inj hs)
            | cleanup now => cases hs
            | next => cases hs
          rw [hrun, ih, List.filterMap_cons_some hs, List.map_cons,
            List.sum_cons, ← Nat.add_assoc]
          rfl

/-- Attempts of one host. -/
def attempt (time : Int) (attempts : Nat) : Offence :=
  { source := Net.Address.parse "1.1.1.1", time, attempts }

/-- Attempts that are enough and are handed out; then two in a window,
one behind its end, and one that is older but comes last. -/
def attemptsOfOne : List Step :=
  [.add (attempt 0 3), .next, .add (attempt 0 1), .add (attempt 599 1),
    .add (attempt 1199 1), .add (attempt 900 1)]

/-- Two attempts ten seconds apart, as early as can be told. -/
def earliestAttempts : List Step :=
  [.add (attempt (-9223372036854775798) 1),
    .add (attempt (-9223372036854775788) 1)]

end Table

end Gatewatch.Offence
