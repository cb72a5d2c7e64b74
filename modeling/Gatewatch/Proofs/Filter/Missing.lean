/-
How many times in a row a file is missing.

# The tale of a path

A filter keeps counts beside its files. They are made when a file is first
missing, start again when they reach the limit, and are dropped when the
file is there or is taken away. What they count is told without them: of
all that happens to the files each path has its tale, the latest first,
of when it was added and taken away and of what every event said about it
(`tale`). The events that report it missing and stand in front of anything
else are those that count (`missesIn`).

# One event

An event goes through the files one by one and gives each a new count. No
two files have the same path (`Course.Sound.apart`), so each is counted
once and from what it had before the event (`noteMissing_counts`); what
the event says about other files does not enter. The count is then the
number of events in a row without the full turns, and the filter trips
when a turn is full (`Course.trips_iff`).
-/
import Gatewatch.Proofs.Filter.Passing
import Gatewatch.Proofs.Filter.Settings
import Mathlib.Data.List.Basic

namespace Gatewatch

-- =============================================================== paths

namespace Disk

/-- To name the same path is to have the same parts. -/
theorem samePath_iff {a b : String} : samePath a b = true ↔ parts a = parts b :=
  beq_iff_eq

theorem samePath_self (a : String) : samePath a a = true :=
  samePath_iff.2 rfl

theorem samePath_comm (a b : String) : samePath a b = samePath b a :=
  Bool.beq_comm

/-- Texts for the same path are the same path as any other text. -/
theorem samePath_congr {a b : String} (h : samePath a b = true) (c : String) :
    samePath a c = samePath b c := by
  unfold samePath
  rw [samePath_iff.1 h]

theorem samePath_congr' {a b : String} (h : samePath a b = true)
    (c : String) : samePath c a = samePath c b := by
  rw [samePath_comm c, samePath_comm c, samePath_congr h]

/-- What is one path and not another, as the two are not the same. -/
theorem not_samePath_and (a path other : String) :
    (!samePath a path && samePath a other)
      = (!samePath path other && samePath a other) := by
  cases hother : samePath a other with
  | false => rw [Bool.and_false, Bool.and_false]
  | true => rw [samePath_congr hother, samePath_comm other]

end Disk

namespace Filter

open Disk (samePath)

-- ============================================================== counts

/-- An event reports a path missing. -/
def Event.reports (e : Event) (path : String) : Bool :=
  e.missing.any (samePath path)

/-- What an event makes of the count of a file. A file that is there has
none. -/
def nextCount (e : Event) (path : String) (n : Nat) : Option Nat :=
  if e.reports path then some (if maxMissing ≤ n + 1 then 0 else n + 1)
  else none

/-- A file trips the filter: the event reports it missing, and that makes
its count reach the limit. -/
def trips (e : Event) (path : String) (n : Nat) : Bool :=
  e.reports path && decide (maxMissing ≤ n + 1)

theorem Event.reports_congr {a b : String} (h : samePath a b = true)
    (e : Event) : e.reports a = e.reports b := by
  unfold reports
  rw [funext (Disk.samePath_congr h)]

/-- All spellings of a path have one count. -/
theorem missesOf_congr {a b : String} (h : samePath a b = true)
    (f : Filter) : f.missesOf a = f.missesOf b := by
  unfold missesOf
  rw [funext fun m : String × Nat => Disk.samePath_congr' h m.1]

theorem missesOf_eq (f : Filter) (path : String) :
    f.missesOf path
      = ((f.missing.find? (samePath ·.1 path)).map Prod.snd).getD 0 := by
  unfold missesOf
  cases f.missing.find? (samePath ·.1 path) <;> rfl

/-- With the counts of a path left out, no other path loses its own. -/
theorem find?_others (counts : List (String × Nat)) (path other : String) :
    (counts.filter fun m => !samePath m.1 path).find? (samePath ·.1 other)
      = if samePath path other then none
        else counts.find? (samePath ·.1 other) := by
  have hboth : ∀ m : String × Nat,
      decide ((!samePath m.1 path) = true ∧ samePath m.1 other = true)
        = (!samePath path other && samePath m.1 other) := by
    intro m
    rw [← Disk.not_samePath_and, Bool.decide_and]
    simp
  rw [List.find?_filter, funext hboth]
  cases samePath path other with
  | true => exact List.find?_eq_none.2 fun _ _ => Bool.false_ne_true
  | false => rfl

/-- A count is set for a path in all its spellings, and for no other. -/
theorem missesOf_setMisses (f : Filter) (path : String) (n : Option Nat)
    (other : String) :
    (f.setMisses path n).missesOf other
      = if samePath path other then n.getD 0 else f.missesOf other := by
  rw [missesOf_eq, missesOf_eq]
  unfold setMisses
  cases n with
  | none =>
      dsimp only
      rw [find?_others]
      split <;> rfl
  | some n =>
      dsimp only
      rw [List.find?_append, find?_others]
      split
      case isTrue hsame => simp [hsame]
      case isFalse hother => simp [hother]

/-- Of some paths the first is noted, and then the others. -/
theorem noteMissing_cons (e : Event) (path : String) (rest : List String)
    (f : Filter) :
    let g := f.setMisses path (nextCount e path (f.missesOf path))
    (noteMissing e (path :: rest) f).value
      = ((noteMissing e rest g).value.1,
          trips e path (f.missesOf path)
            || (noteMissing e rest g).value.2) := by
  unfold nextCount trips
  rw [noteMissing]
  have hany : e.missing.any (samePath path) = e.reports path := rfl
  rw [hany]
  cases e.reports path with
  | true =>
      by_cases hlimit : maxMissing ≤ f.missesOf path + 1
      · simp [hlimit]
      · simp [hlimit]
  | false => rfl

/-- No two paths are the same. -/
def Distinct (paths : List String) : Prop :=
  paths.Pairwise fun a b => samePath a b = false

/-- An event gives each of some paths a new count, from the one that it
had, and leaves all other counts as they are. The filter trips when one of
the paths trips it. -/
theorem noteMissing_counts (e : Event) {paths : List String}
    (hpaths : Distinct paths) (f : Filter) :
    (noteMissing e paths f).value.1.files = f.files
      ∧ (∀ path, (noteMissing e paths f).value.1.missesOf path
        = if paths.any (samePath · path) then
            (nextCount e path (f.missesOf path)).getD 0
          else f.missesOf path)
      ∧ ((noteMissing e paths f).value.2 = true
        ↔ ∃ path ∈ paths, trips e path (f.missesOf path) = true) := by
  induction paths generalizing f with
  | nil =>
      refine ⟨rfl, fun _ => rfl, ?_, ?_⟩
      · exact fun h => absurd h Bool.false_ne_true
      · exact fun ⟨_, hmem, _⟩ => absurd hmem List.not_mem_nil
  | cons first rest ih =>
      obtain ⟨hfirst, hrest⟩ := List.pairwise_cons.1 hpaths
      have hvalue := noteMissing_cons e first rest f
      obtain ⟨hfiles, hcounts, htrips⟩ := ih hrest
        (f.setMisses first (nextCount e first (f.missesOf first)))
      dsimp only at hvalue
      rw [hvalue]
      refine ⟨hfiles, ?_, ?_⟩
      · intro path
        dsimp only
        rw [hcounts, missesOf_setMisses, List.any_cons]
        cases hsame : samePath first path with
        | true =>
            -- none of the others is this path
            have hnone : rest.any (samePath · path) = false := by
              rw [List.any_eq_false]
              intro other hother
              rw [Disk.samePath_comm, ← Disk.samePath_congr hsame,
                hfirst other hother]
              exact Bool.false_ne_true
            rw [hnone, missesOf_congr hsame]
            unfold nextCount
            rw [e.reports_congr hsame]
            rfl
        | false => rfl
      · rw [Bool.or_eq_true, htrips, List.exists_mem_cons_iff]
        refine or_congr Iff.rfl (exists_congr fun other =>
          and_congr_right fun hother => ?_)
        rw [missesOf_setMisses, hfirst other hother,
          if_neg Bool.false_ne_true]

-- ================================================================ files

/-- A path is one of the files if one of their paths is the same. -/
theorem hasPath_eq (f : Filter) (path : String) :
    f.hasPath path = f.paths.any (samePath · path) := by
  unfold hasPath paths
  rw [List.any_map]
  rfl

/-- A file that is added was not there, and begins without a count. -/
theorem of_addPath_eq_ok {f g : Filter} {files : Disk.Tree} {path : String}
    {tail : Bool} (h : (f.addPath files path tail).value = .ok g) :
    f.hasPath path = false ∧ g.paths = f.paths ++ [path]
      ∧ g.missing = f.missing := by
  have hnew : f.hasPath path = false := by
    cases hpath : f.hasPath path with
    | false => rfl
    | true =>
        unfold addPath at h
        rw [if_pos hpath] at h
        cases h
  obtain ⟨watcher, file, -, hfile, rfl⟩ := addPath_eq_ok h
  refine ⟨hnew, ?_, rfl⟩
  unfold paths
  rw [List.map_append, List.map_singleton]
  show _ ++ [file.path] = _
  rw [(LogFile.openAt_eq_ok hfile).1]

/-- A file that is taken away leaves without its count. -/
theorem of_removePath_eq_ok {f g : Filter} {path : String}
    (h : (f.removePath path).value = .ok g) :
    g.paths = f.paths.filter (fun other => !samePath other path)
      ∧ ∀ other, g.missesOf other
        = if samePath path other then 0 else f.missesOf other := by
  unfold removePath at h
  split at h
  case isFalse => cases h
  case isTrue =>
    injection h with h
    refine ⟨?_, fun other => ?_⟩
    · rw [← h]
      unfold paths
      rw [List.filter_map]
      rfl
    · rw [← h]
      exact missesOf_setMisses f path none other

-- ================================================================ tales

/-- What a happening is to a path. -/
inductive Mention where
  | added
  | removed
  | missing
  | present
deriving DecidableEq

/-- What an event is to a path. -/
def Event.mention (e : Event) (path : String) : Mention :=
  if e.reports path then .missing else .present

/-- How many of the latest events in a row report a path missing, since it
was added last. -/
def missesIn (told : List Mention) : Nat :=
  (told.takeWhile (· == .missing)).length

/-- The path was added, and not taken away since. -/
def isListedIn : List Mention → Bool
  | .added :: _ => true
  | .removed :: _ => false
  | .missing :: earlier | .present :: earlier => isListedIn earlier
  | [] => false

/-- The count of a path that a filter keeps. -/
def countIn (told : List Mention) : Nat :=
  if isListedIn told then missesIn told % maxMissing else 0

section Events

variable (e : Event) (path : String) (told : List Mention)

/-- An event adds a path no more than it takes it away. -/
theorem isListedIn_mention :
    isListedIn (e.mention path :: told) = isListedIn told := by
  unfold Event.mention
  split <;> rfl

/-- An event goes on with the row or ends it. -/
theorem missesIn_mention :
    missesIn (e.mention path :: told)
      = if e.reports path then missesIn told + 1 else 0 := by
  unfold Event.mention missesIn
  split <;> simp

/-- The count after an event is made from the count before it. -/
theorem countIn_mention :
    countIn (e.mention path :: told)
      = if isListedIn told then
          (nextCount e path (countIn told)).getD 0
        else countIn told := by
  unfold countIn
  rw [isListedIn_mention, missesIn_mention]
  cases isListedIn told with
  | false => rfl
  | true =>
      unfold nextCount maxMissing
      cases e.reports path with
      | false => rfl
      | true =>
          simp only [if_true, Option.getD_some]
          split <;> omega

/-- A path trips the filter when a turn of the count is full. -/
theorem trips_countIn (hlisted : isListedIn told = true) :
    trips e path (countIn told) = true
      ↔ 0 < missesIn (e.mention path :: told)
        ∧ maxMissing ∣ missesIn (e.mention path :: told) := by
  unfold trips countIn maxMissing
  rw [missesIn_mention, hlisted]
  cases e.reports path with
  | false => simp
  | true =>
      simp only [Bool.true_and, decide_eq_true_eq, if_true]
      omega

end Events

-- =============================================================== calls

/-- A call about the files of a filter: to add one, with the files that
there are then, to take one away, or to note which are missing. -/
inductive FileCall where
  | add (files : Disk.Tree) (path : String) (tail : Bool)
  | remove (path : String)
  | note (event : Event)

/-- What a call came to that was not refused. -/
inductive Happening where
  | added (path : String)
  | removed (path : String)
  | noted (event : Event)

/-- What a happening is to a path: every event tells whether the path is
missing, and what is done with other paths is nothing to it. -/
def Happening.about? (path : String) : Happening → Option Mention
  | .added other => if samePath other path then some .added else none
  | .removed other => if samePath other path then some .removed else none
  | .noted event => some (event.mention path)

/-- All that happened to a path, the latest first. -/
def tale (path : String) (past : List Happening) : List Mention :=
  past.filterMap (Happening.about? path)

/-- What happens last comes first in the tale, if it is about the path. -/
theorem tale_cons (path : String) (last : Happening)
    (past : List Happening) :
    tale path (last :: past)
      = (last.about? path).toList ++ tale path past := by
  unfold tale
  rw [List.filterMap_cons]
  cases last.about? path <;> rfl

theorem tale_added (path other : String) (past : List Happening) :
    tale path (.added other :: past)
      = if samePath other path then .added :: tale path past
        else tale path past := by
  rw [tale_cons]
  dsimp only [Happening.about?]
  cases samePath other path <;> rfl

theorem tale_removed (path other : String) (past : List Happening) :
    tale path (.removed other :: past)
      = if samePath other path then .removed :: tale path past
        else tale path past := by
  rw [tale_cons]
  dsimp only [Happening.about?]
  cases samePath other path <;> rfl

theorem tale_noted (path : String) (event : Event)
    (past : List Happening) :
    tale path (.noted event :: past)
      = event.mention path :: tale path past := rfl

/-- A filter with what happened to its files, the latest first. -/
structure Course where
  filter : Filter
  past : List Happening := []

namespace Course

/-- A filter without files. -/
def start (f : Filter) : Course :=
  { filter := { f with files := [], missing := [] } }

/-- The course after a call. -/
def call (c : Course) : FileCall → Course
  | .add files path tail =>
    match (c.filter.addPath files path tail).value with
    | .ok filter => { filter, past := .added path :: c.past }
    | .error _ => c
  | .remove path =>
    match (c.filter.removePath path).value with
    | .ok filter => { filter, past := .removed path :: c.past }
    | .error _ => c
  | .note event =>
    { filter := (noteMissing event c.filter.paths c.filter).value.1
      past := .noted event :: c.past }

/-- The course after calls. -/
def run (c : Course) (calls : List FileCall) : Course := calls.foldl call c

/-- No two files have the same path, the files are those that were added
and not taken away since, and the filter keeps the count that the tale of
each path gives. -/
structure Sound (c : Course) : Prop where
  apart : Distinct c.filter.paths
  listed : ∀ path, c.filter.hasPath path = isListedIn (tale path c.past)
  counted : ∀ path, c.filter.missesOf path = countIn (tale path c.past)

/-- Without files there is nothing to tell. -/
theorem sound_start (f : Filter) : (start f).Sound where
  apart := .nil
  listed _ := rfl
  counted _ := rfl

namespace Sound

variable {c : Course}

/-- What is no file has no count. -/
theorem missesOf_eq_zero (h : c.Sound) {path : String}
    (hnone : c.filter.hasPath path = false) :
    c.filter.missesOf path = 0 := by
  rw [h.counted]
  unfold countIn
  rw [← h.listed, hnone]
  rfl

/-- A file is added. -/
theorem added (h : c.Sound) {g : Filter} {files : Disk.Tree}
    {path : String} {tail : Bool}
    (hadd : (c.filter.addPath files path tail).value = .ok g) :
    Sound { filter := g, past := .added path :: c.past } := by
  obtain ⟨hnew, hpaths, hmissing⟩ := of_addPath_eq_ok hadd
  have hcount : ∀ other, g.missesOf other = c.filter.missesOf other := by
    intro other
    unfold missesOf
    rw [hmissing]
  have hpath : ∀ other, g.hasPath other
      = (c.filter.hasPath other || samePath path other) := by
    intro other
    rw [hasPath_eq, hasPath_eq, hpaths, List.any_append, List.any_cons,
      List.any_nil, Bool.or_false]
  refine ⟨?_, fun other => ?_, fun other => ?_⟩
  · show Distinct g.paths
    rw [hpaths]
    rw [hasPath_eq, List.any_eq_false] at hnew
    refine List.pairwise_append.2 ⟨h.apart, List.pairwise_singleton .., ?_⟩
    intro a ha b hb
    rw [List.mem_singleton.1 hb]
    exact Bool.eq_false_iff.2 (hnew a ha)
  · show g.hasPath other = _
    rw [hpath, tale_added, h.listed]
    split
    case isTrue hsame => rw [hsame, Bool.or_true]; rfl
    case isFalse hother =>
      rw [Bool.eq_false_iff.2 hother, Bool.or_false]
  · show g.missesOf other = _
    rw [hcount, tale_added]
    split
    case isTrue hsame =>
      rw [← missesOf_congr hsame, h.missesOf_eq_zero hnew]
      rfl
    case isFalse => exact h.counted other

/-- A file is taken away. -/
theorem removed (h : c.Sound) {g : Filter} {path : String}
    (hremove : (c.filter.removePath path).value = .ok g) :
    Sound { filter := g, past := .removed path :: c.past } := by
  obtain ⟨hpaths, hcount⟩ := of_removePath_eq_ok hremove
  have hpath : ∀ other, g.hasPath other
      = (c.filter.hasPath other && !samePath path other) := by
    intro other
    rw [hasPath_eq, hasPath_eq, hpaths, List.any_filter,
      funext fun a => Disk.not_samePath_and a path other]
    cases samePath path other <;> simp
  refine ⟨?_, fun other => ?_, fun other => ?_⟩
  · show Distinct g.paths
    rw [hpaths]
    exact h.apart.filter _
  · show g.hasPath other = _
    rw [hpath, tale_removed, h.listed]
    split
    case isTrue hsame => rw [hsame, Bool.not_true, Bool.and_false]; rfl
    case isFalse hother =>
      rw [Bool.eq_false_iff.2 hother, Bool.not_false, Bool.and_true]
  · show g.missesOf other = _
    rw [hcount, tale_removed]
    split
    case isTrue => rfl
    case isFalse => exact h.counted other

/-- An event is noted. -/
theorem noted (h : c.Sound) (event : Event) :
    (c.call (.note event)).Sound := by
  obtain ⟨hfiles, hcounts, -⟩ := noteMissing_counts event h.apart c.filter
  have hpaths : (c.call (.note event)).filter.paths = c.filter.paths := by
    unfold paths
    rw [← hfiles]
    rfl
  refine ⟨?_, fun path => ?_, fun path => ?_⟩
  · rw [hpaths]
    exact h.apart
  · rw [hasPath_eq, hpaths, ← hasPath_eq, h.listed]
    exact (isListedIn_mention ..).symm
  · refine (hcounts path).trans ?_
    rw [← hasPath_eq, h.listed, h.counted]
    exact (countIn_mention ..).symm

/-- Any call keeps the course sound. -/
theorem call (h : c.Sound) (call : FileCall) : (c.call call).Sound := by
  cases call with
  | add files path tail =>
      unfold Course.call
      dsimp only
      split
      case h_1 g hadd => exact h.added hadd
      case h_2 => exact h
  | remove path =>
      unfold Course.call
      dsimp only
      split
      case h_1 g hremove => exact h.removed hremove
      case h_2 => exact h
  | note event => exact h.noted event

/-- Any run of calls keeps the course sound. -/
theorem run (h : c.Sound) (calls : List FileCall) : (c.run calls).Sound := by
  induction calls generalizing c with
  | nil => exact h
  | cons first rest ih => exact ih (h.call first)

/-- The filter trips when the row of a file comes to a full turn. -/
theorem trips_iff (h : c.Sound) (event : Event) :
    (noteMissing event c.filter.paths c.filter).value.2 = true
      ↔ ∃ path ∈ c.filter.paths,
        0 < missesIn (tale path (.noted event :: c.past))
          ∧ maxMissing ∣ missesIn (tale path (.noted event :: c.past)) := by
  obtain ⟨-, -, htrips⟩ := noteMissing_counts event h.apart c.filter
  rw [htrips]
  refine exists_congr fun path => and_congr_right fun hmem => ?_
  have hlisted : isListedIn (tale path c.past) = true := by
    rw [← h.listed, hasPath_eq]
    exact List.any_eq_true.2 ⟨path, hmem, Disk.samePath_self path⟩
  rw [h.counted, tale_noted]
  exact trips_countIn event path _ hlisted

/-- What is taken away is no file then, nor if that is refused. -/
theorem hasPath_call_remove (h : c.Sound) (path : String) :
    (c.call (.remove path)).filter.hasPath path = false := by
  unfold Course.call
  dsimp only
  split
  case h_1 g hremove =>
    rw [(h.removed hremove).listed, tale_removed,
      if_pos (Disk.samePath_self path)]
    rfl
  case h_2 error hremove =>
    unfold removePath at hremove
    split at hremove
    case isTrue => cases hremove
    case isFalse hnone => exact Bool.eq_false_iff.2 hnone

/-- What was no file has no count when it is added, nor if that is
refused. -/
theorem missesOf_call_add (h : c.Sound) {path : String}
    (hnone : c.filter.hasPath path = false) (files : Disk.Tree)
    (tail : Bool) :
    (c.call (.add files path tail)).filter.missesOf path = 0 := by
  unfold Course.call
  dsimp only
  split
  case h_1 g hadd =>
    rw [(h.added hadd).counted, tale_added,
      if_pos (Disk.samePath_self path)]
    rfl
  case h_2 => exact h.missesOf_eq_zero hnone

end Sound

end Course

/-- Whatever is called about the files of a filter that had none, the
filter trips on an event exactly when for one of its files the number of
the latest events in a row that report it missing, this one included and
since the file was added last, is a full turn or several. The files are
those that were added and not taken away since. The filter keeps for each
path the number of those events beyond full turns, and nothing for what is
no file: it is told by what was done with the path and what the events
said about it, and a file that is taken away and added again begins
without a count. -/
theorem trips_by_misses_in_a_row (f : Filter) (calls : List FileCall) :
    let c := (Course.start f).run calls
    (∀ event, (noteMissing event c.filter.paths c.filter).value.2 = true
        ↔ ∃ path ∈ c.filter.paths,
          0 < missesIn (tale path (.noted event :: c.past))
            ∧ maxMissing ∣ missesIn (tale path (.noted event :: c.past)))
      ∧ (∀ path, c.filter.hasPath path = isListedIn (tale path c.past))
      ∧ (∀ path, c.filter.missesOf path = countIn (tale path c.past))
      ∧ ∀ files path tail,
        (c.run [.remove path, .add files path tail]).filter.missesOf path
          = 0 := by
  intro c
  have h : c.Sound := (Course.sound_start f).run calls
  refine ⟨h.trips_iff, h.listed, h.counted, fun files path tail => ?_⟩
  exact (h.call (.remove path)).missesOf_call_add
    (h.hasPath_call_remove path) files tail

/-- Two logs, of which the second goes missing one event after the first.
The third event in a row is the one that trips the filter, for each of
them. -/
example :
    let logs := ["a.log", "b.log"].foldl (fun (t : Disk.Tree) path =>
      (t.write path []).toOption.getD t) Disk.Tree.initial
    let c := (Course.start
        { jail := "ssh", detector := .empty 0, watcher := .polling [] }).run
      [.add logs "a.log" false, .add logs "b.log" false,
        .note { missing := ["a.log"] },
        .note { missing := ["a.log", "b.log"] }]
    let both : Event := { missing := ["a.log", "b.log"] }
    let d := c.call (.note both)
    (noteMissing both c.filter.paths c.filter).value.2 = true
      ∧ (noteMissing { missing := ["a.log"] } d.filter.paths d.filter).value.2
        = false
      ∧ (noteMissing both d.filter.paths d.filter).value.2 = true := by
  decide +kernel

end Filter

end Gatewatch
