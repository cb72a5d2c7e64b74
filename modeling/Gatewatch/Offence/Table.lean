/-
The table of offences. Each source has at most one entry, which counts the attempts of the
current window. A window starts with an offence; one that comes later than `findTime` seconds
after the start begins the next. Entries stand in the order in which they were made, and those
with enough attempts are handed out in that order.
-/
import Gatewatch.Offence.Basic

namespace Gatewatch.Offence

/-- The attempts of a source in its window, which starts at `firstSeen`. -/
structure Entry where
  source : Net.Address
  attempts : Nat
  firstSeen : Int
  lastSeen : Int
  lines : List String
deriving DecidableEq

namespace Entry

/-- An entry that counts nothing yet. -/
def start (o : Offence) : Entry :=
  { source := o.source, attempts := 0, firstSeen := o.time, lastSeen := o.time, lines := [] }

/-- Begins the next window when an offence comes too late for the current one. -/
def renew (window : Int) (e : Entry) (o : Offence) : Entry :=
  if e.firstSeen < horizon o.time window then
    { e with attempts := 0, firstSeen := o.time, lines := [] }
  else e

/-- Counts an offence. -/
def count (e : Entry) (o : Offence) : Entry :=
  { e with
    attempts := min (e.attempts + o.weight) maxAttempts
    lastSeen := max e.lastSeen o.time
    lines := e.lines ++ o.lines }

/-- The entry as one offence. -/
def toOffence (e : Entry) : Offence :=
  { source := e.source, time := e.lastSeen, attempts := e.attempts, lines := e.lines }

@[simp] theorem source_start (o : Offence) : (start o).source = o.source := rfl

@[simp] theorem source_renew (window : Int) (e : Entry) (o : Offence) :
    (e.renew window o).source = e.source := by
  unfold renew; split <;> rfl

@[simp] theorem source_count (e : Entry) (o : Offence) : (e.count o).source = e.source := rfl

end Entry

/-- The entries, the attempts counted since the beginning, and when a source is to be banned. -/
structure Table where
  entries : List Entry := []
  total : Nat := 0
  maxRetry : Nat := 3
  findTime : Int := 600

namespace Table

/-- The entry of a source. -/
def get? (t : Table) (source : Net.Address) : Option Entry :=
  t.entries.find? (·.source == source)

/-- Counts an offence in the entry of its source, or in a new entry behind the others. -/
def countIn (window : Int) (o : Offence) : List Entry → List Entry
  | [] => [(Entry.start o).count o]
  | e :: rest =>
    if e.source = o.source then (e.renew window o).count o :: rest
    else e :: countIn window o rest

/-- Counts an offence. -/
def add (t : Table) (o : Offence) : Table :=
  { t with entries := countIn t.findTime o t.entries, total := t.total + o.weight }

/-- Forgets the entries that were last seen more than a window ago. -/
def cleanup (t : Table) (now : Int) : Table :=
  { t with entries := t.entries.filter fun e => horizon now t.findTime ≤ e.lastSeen }

/-- Whether an entry has attempts enough. -/
def isDue (t : Table) (e : Entry) : Bool := t.maxRetry ≤ e.attempts

/-- Hands out the oldest entry with attempts enough, and forgets it. -/
def next (t : Table) : Option (Offence × Table) :=
  match t.entries.find? t.isDue with
  | none => none
  | some e =>
    some (e.toOffence, { t with entries := t.entries.filter (·.source != e.source) })

/-- The number of entries. -/
def size (t : Table) : Nat := t.entries.length

theorem size_next_lt {t u : Table} {o : Offence} (h : t.next = some (o, u)) :
    u.size < t.size := by
  unfold next at h
  split at h
  · simp at h
  · rename_i e he
    obtain ⟨_, rfl⟩ := by simpa using h
    exact List.length_filter_lt_length_iff_exists.2
      ⟨e, List.mem_of_find?_eq_some he, by simp⟩

/-- Hands out all entries with attempts enough, the oldest first. -/
def drain (t : Table) : List Offence × Table :=
  match _ : t.next with
  | none => ([], t)
  | some (o, u) => (o :: u.drain.1, u.drain.2)
termination_by t.size
decreasing_by
  all_goals exact size_next_lt ‹_›

end Table

end Gatewatch.Offence
