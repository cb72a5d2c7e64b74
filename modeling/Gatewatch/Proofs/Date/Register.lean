/-
What becomes of the templates of a detector.

# The register

Two templates of a detector may be alike in all they say, so which of
them supplied a date is told by numbers: a register gives each template
the number of the call by which it joined, the built-in ones the numbers
before those, and keeps the numbers beside the templates whatever their
order becomes. It also writes down who supplied each date.

# The account

A call does one of a few things to a register (`Step`, `step_call`), and
none of them loses a template, makes a second one of it, or credits a
date to another: the templates are those that should be there
(`standing`), in some order, and the hits of each are the dates that were
written down for it (`Sound`, `sound_run`).
-/
import Gatewatch.Proofs.Date.Trial
import Gatewatch.Proofs.Outcome

namespace Gatewatch.Date

-- =============================================================== calls

/-- What a detector may be asked to do. Only templates of the plain kind
are added, whose pattern is given as it is matched (`Template.make`). One
that is made from a text of fields is the user's: it is set, and makes way
for the next one that is set, so it is not among those that are added. -/
inductive Call where
  | find (line : List Char) (now : Int)
  | sort
  | add (name text : String) (kind : TemplateKind)
  | pattern (text : String)
deriving DecidableEq

namespace Call

/-- The template that a call adds behind the others, if its text can be
read. -/
def added? : Call → Option Template
  | add name text kind => (Template.make name text kind).toOption
  | _ => none

/-- The user's template that a call sets, if its text can be read. -/
def user? : Call → Option Template
  | pattern text => (Template.ofFields text).toOption
  | _ => none

theorem added?_spec {c : Call} {t : Template} (h : c.added? = some t) :
    t.source = none ∧ t.fresh = t ∧ c.user? = none ∧ c ≠ .sort := by
  cases c with
  | add name text kind =>
      have hmake := Outcome.eq_ok_of_toOption h
      unfold Template.make at hmake
      split at hmake
      case h_1 =>
        injection hmake with hmake
        rw [← hmake]
        exact ⟨rfl, rfl, rfl, nofun⟩
      case h_2 => cases hmake
  | _ => cases h

theorem user?_spec {c : Call} {t : Template} (h : c.user? = some t) :
    (∃ text, t.source = some text ∧ c = .pattern text) ∧ t.fresh = t
      ∧ c.added? = none ∧ c ≠ .sort := by
  cases c with
  | pattern text =>
      have hread := Outcome.eq_ok_of_toOption h
      unfold Template.ofFields at hread
      obtain ⟨parts, -, hread⟩ := Outcome.bind_eq_ok.1 hread
      obtain ⟨u, hmake, hread⟩ := Outcome.bind_eq_ok.1 hread
      have hhits : u.hits = 0 := by
        unfold Template.make at hmake
        split at hmake
        · injection hmake with hmake
          rw [← hmake]
        · cases hmake
      injection hread with hread
      rw [← hread]
      refine ⟨⟨text, rfl, rfl⟩, ?_, rfl, nofun⟩
      unfold Template.fresh
      rw [hhits]
  | _ => cases h

end Call

namespace Detector

/-- The detector after a call. -/
def call (d : Detector) : Call → Detector
  | .find line now => (d.detect line now).value.1
  | .sort => d.sort.value
  | .add name text kind =>
    match Template.make name text kind with
    | .ok t => d.add t
    | .error _ => d
  | .pattern text =>
    match (d.setPattern text).value with
    | .ok d => d
    | .error _ => d

/-- The detector after some calls. -/
def run (d : Detector) (calls : List Call) : Detector := calls.foldl call d

/-- No call changes the zone. -/
theorem zone_call (d : Detector) (c : Call) : (d.call c).zone = d.zone := by
  cases c with
  | find => rfl
  | sort =>
      show d.sort.value.zone = _
      unfold sort
      split <;> rfl
  | add name text kind =>
      dsimp only [call]
      cases Template.make name text kind <;> rfl
  | pattern text =>
      dsimp only [call, setPattern]
      cases Template.ofFields text <;> rfl

theorem zone_run (d : Detector) (calls : List Call) :
    (d.run calls).zone = d.zone := by
  induction calls using List.reverseRecOn with
  | nil => rfl
  | append_singleton calls c ih =>
      unfold run at ih ⊢
      rw [List.foldl_append, ← ih]
      exact zone_call _ c

end Detector

-- ============================================================ register

/-- The number of the first call: the built-in templates have those
before it. -/
def firstNumber : Nat := Builtin.templates.length

/-- A detector with the numbers of its templates, in their order.
`suppliers` has the numbers of those who supplied dates, a number for each
date, and `next` is the number of the next call. -/
structure Register where
  detector : Detector
  numbers : List Nat
  suppliers : List Nat
  next : Nat

namespace Register

/-- The register of a detector with the built-in templates. -/
def builtin (zone : Int) : Register :=
  ⟨.builtin zone, List.range firstNumber, [], firstNumber⟩

variable (r : Register)

/-- The templates with their numbers. -/
def entries : List (Template × Nat) := r.detector.templates.zip r.numbers

/-- The number of the first template that reads a line. -/
def supplier? (line : List Char) (now : Int) : Option Nat :=
  (r.entries.find? fun e =>
    (e.1.reading? line r.detector.zone now).isSome).map (·.2)

/-- How many dates a template has supplied. -/
def hits (n : Nat) : Nat := r.suppliers.count n

/-- The entries in the order of their hits. -/
def sorted : List (Template × Nat) :=
  r.entries.mergeSort fun e f => f.1.hits ≤ e.1.hits

/-- The register after a call. Each template takes its number along to its
new place. -/
def call (c : Call) : Register where
  detector := r.detector.call c
  numbers := match c with
    | .find .. => r.numbers
    | .sort =>
      if r.detector.unsorted then r.sorted.map (·.2) else r.numbers
    | .add .. => if c.added?.isSome then r.numbers ++ [r.next] else r.numbers
    | .pattern .. =>
      if c.user?.isSome then
        r.next :: (r.entries.filter (·.1.source.isNone)).map (·.2)
      else r.numbers
  suppliers := match c with
    | .find line now => r.suppliers ++ (r.supplier? line now).toList
    | _ => r.suppliers
  next := r.next + 1

/-- The register after some calls. -/
def run (calls : List Call) : Register := calls.foldl call r

theorem run_append (calls more : List Call) :
    r.run (calls ++ more) = (r.run calls).run more :=
  List.foldl_append

theorem run_concat (calls : List Call) (c : Call) :
    r.run (calls ++ [c]) = (r.run calls).call c :=
  run_append r calls [c]

/-- A register is kept beside the detector and does not touch it. -/
theorem detector_run (calls : List Call) :
    (r.run calls).detector = r.detector.run calls := by
  induction calls using List.reverseRecOn with
  | nil => rfl
  | append_singleton calls c ih =>
      unfold Detector.run at ih ⊢
      rw [run_concat, List.foldl_append, ← ih]
      rfl

-- =============================================================== steps

/-- What a call does to the entries, the mark of what is unsorted, and the
suppliers. -/
inductive Step : Call → List (Template × Nat) → Bool → List Nat → Prop
  | supplies {line : List Char} {now : Int} {t : Template} {n : Nat}
      {before after : List (Template × Nat)} {found : Pattern.Span × Int}
      (hentries : r.entries = before ++ (t, n) :: after)
      (hbefore : ∀ e ∈ before, e.1.reading? line r.detector.zone now = none)
      (ht : t.reading? line r.detector.zone now = some found) :
      Step (.find line now) (before ++ (t.hit, n) :: after) true
        (r.suppliers ++ [n])
  | passes {line : List Char} {now : Int}
      (h : ∀ e ∈ r.entries, e.1.reading? line r.detector.zone now = none) :
      Step (.find line now) r.entries r.detector.unsorted r.suppliers
  | sorts (h : r.detector.unsorted = true) :
      Step .sort r.sorted false r.suppliers
  | rests (h : r.detector.unsorted = false) :
      Step .sort r.entries false r.suppliers
  | joins {c : Call} {t : Template} (h : c.added? = some t) :
      Step c (r.entries ++ [(t, r.next)]) r.detector.unsorted r.suppliers
  | sets {c : Call} {t : Template} (h : c.user? = some t) :
      Step c ((t, r.next) :: r.entries.filter (·.1.source.isNone))
        r.detector.unsorted r.suppliers
  | fails {c : Call} (hadded : c.added? = none) (huser : c.user? = none)
      (hsort : c ≠ .sort) (hfind : ∀ line now, c ≠ .find line now) :
      Step c r.entries r.detector.unsorted r.suppliers

variable {r}

/-- Entries are told by the templates and their numbers. -/
theorem entries_eq {l : List (Template × Nat)}
    (htemplates : r.detector.templates = l.map (·.1))
    (hnumbers : r.numbers = l.map (·.2)) :
    r.entries = l ∧ r.detector.templates.length = r.numbers.length := by
  refine ⟨(List.zip_of_prod htemplates.symm hnumbers.symm).symm, ?_⟩
  rw [htemplates, hnumbers, List.length_map, List.length_map]

theorem supplier?_eq_some {line : List Char} {now : Int}
    {t : Template} {n : Nat} {before after : List (Template × Nat)}
    {found : Pattern.Span × Int}
    (hentries : r.entries = before ++ (t, n) :: after)
    (hbefore : ∀ e ∈ before, e.1.reading? line r.detector.zone now = none)
    (ht : t.reading? line r.detector.zone now = some found) :
    r.supplier? line now = some n := by
  have hnone : before.find? (fun e =>
      (e.1.reading? line r.detector.zone now).isSome) = none :=
    List.find?_eq_none.2 fun e he => by simp [hbefore e he]
  unfold supplier?
  rw [hentries, List.find?_append, hnone, Option.none_or,
    List.find?_cons_of_pos]
  · rfl
  · rw [ht]
    rfl

theorem supplier?_eq_none {line : List Char} {now : Int}
    (h : ∀ e ∈ r.entries, e.1.reading? line r.detector.zone now = none) :
    r.supplier? line now = none := by
  unfold supplier?
  rw [List.find?_eq_none.2 fun e he => by simp [h e he]]
  rfl

variable (hlength : r.detector.templates.length = r.numbers.length)
include hlength

theorem templates_eq : r.detector.templates = r.entries.map (·.1) :=
  (List.map_fst_zip (Nat.le_of_eq hlength)).symm

theorem numbers_eq : r.numbers = r.entries.map (·.2) :=
  (List.map_snd_zip (Nat.le_of_eq hlength.symm)).symm

theorem entries_of_same {next : Register}
    (hdetector : next.detector = r.detector)
    (hnumbers : next.numbers = r.numbers) :
    next.entries = r.entries
      ∧ next.detector.templates.length = next.numbers.length := by
  unfold entries
  rw [hdetector, hnumbers]
  exact ⟨rfl, hlength⟩

theorem step_find (line : List Char) (now : Int) :
    let next := r.call (.find line now)
    Step r (.find line now) next.entries next.detector.unsorted next.suppliers
      ∧ next.detector.templates.length = next.numbers.length := by
  intro next
  have hsuppliers : next.suppliers
      = r.suppliers ++ (r.supplier? line now).toList := rfl
  have hnumbers : next.numbers = r.numbers := rfl
  cases hfind : r.entries.find? fun e =>
      (e.1.reading? line r.detector.zone now).isSome with
  | none =>
      rw [List.find?_eq_none] at hfind
      have hnone : ∀ e ∈ r.entries,
          e.1.reading? line r.detector.zone now = none := fun e he => by
        simpa using hfind e he
      have hsame : next.detector = r.detector := by
        refine (Detector.detect_of_no_reading fun t ht => ?_).1
        rw [templates_eq hlength] at ht
        obtain ⟨e, he, rfl⟩ := List.mem_map.1 ht
        exact hnone e he
      obtain ⟨hentries, hnext⟩ := entries_of_same hlength hsame hnumbers
      refine ⟨?_, hnext⟩
      rw [hentries, hsame, hsuppliers, supplier?_eq_none hnone,
        Option.toList_none, List.append_nil]
      exact .passes hnone
  | some e =>
      obtain ⟨t, n⟩ := e
      obtain ⟨hreads, before, after, hsplit, hbefore⟩ :=
        List.find?_eq_some_iff_append.1 hfind
      obtain ⟨found, ht⟩ := Option.isSome_iff_exists.1 hreads
      have hnone : ∀ e ∈ before,
          e.1.reading? line r.detector.zone now = none := fun e he => by
        simpa using hbefore e he
      have htemplates : r.detector.templates
          = before.map (·.1) ++ t :: after.map (·.1) := by
        rw [templates_eq hlength, hsplit, List.map_append]
        rfl
      have hdetect := Detector.detect_of_reading htemplates (fun u hu => by
        obtain ⟨e, he, rfl⟩ := List.mem_map.1 hu
        exact hnone e he) ht
      have hnext : next.detector = { r.detector with
          templates := before.map (·.1) ++ t.hit :: after.map (·.1)
          unsorted := true } := congrArg Prod.fst hdetect
      obtain ⟨hentries, hnext'⟩ := entries_eq (r := next)
        (l := before ++ (t.hit, n) :: after)
        (by rw [hnext, List.map_append]; rfl)
        (by
          rw [hnumbers, numbers_eq hlength, hsplit, List.map_append,
            List.map_append]
          rfl)
      refine ⟨?_, hnext'⟩
      rw [hentries, hnext, hsuppliers, supplier?_eq_some hsplit hnone ht]
      exact .supplies hsplit hnone ht

theorem step_sort :
    let next := r.call .sort
    Step r .sort next.entries next.detector.unsorted next.suppliers
      ∧ next.detector.templates.length = next.numbers.length := by
  intro next
  have hnumbers : next.numbers
      = if r.detector.unsorted then r.sorted.map (·.2) else r.numbers := rfl
  have hdetector : next.detector = r.detector.sort.value := rfl
  unfold Detector.sort at hdetector
  by_cases hunsorted : r.detector.unsorted = true
  · rw [if_pos hunsorted] at hnumbers hdetector
    have htemplates : next.detector.templates = r.sorted.map (·.1) := by
      rw [hdetector]
      show Detector.byHits r.detector.templates = _
      rw [Detector.byHits_eq_mergeSort, templates_eq hlength, sorted]
      refine (List.map_mergeSort ?_).symm
      exact fun _ _ _ _ => rfl
    obtain ⟨hentries, hnext⟩ := entries_eq htemplates hnumbers
    refine ⟨?_, hnext⟩
    rw [hentries, hdetector]
    exact .sorts hunsorted
  · rw [if_neg hunsorted] at hnumbers hdetector
    rw [Bool.not_eq_true] at hunsorted
    have hsame : next.detector = r.detector := hdetector
    obtain ⟨hentries, hnext⟩ := entries_of_same hlength hsame hnumbers
    refine ⟨?_, hnext⟩
    rw [hentries, hsame, hunsorted]
    exact .rests hunsorted

theorem step_add (name text : String) (kind : TemplateKind) :
    let next := r.call (.add name text kind)
    Step r (.add name text kind) next.entries next.detector.unsorted
        next.suppliers
      ∧ next.detector.templates.length = next.numbers.length := by
  intro next
  have hnumbers : next.numbers
      = if (Call.add name text kind).added?.isSome then r.numbers ++ [r.next]
        else r.numbers := rfl
  have hdetector : next.detector
      = match Template.make name text kind with
        | .ok t => r.detector.add t
        | .error _ => r.detector := rfl
  cases hmake : Template.make name text kind with
  | ok t =>
      have hadded : (Call.add name text kind).added? = some t :=
        congrArg Except.toOption hmake
      rw [hmake] at hdetector
      rw [hadded, Option.isSome_some, if_pos rfl] at hnumbers
      obtain ⟨hentries, hnext⟩ := entries_eq (r := next)
        (l := r.entries ++ [(t, r.next)])
        (by rw [hdetector, List.map_append, ← templates_eq hlength]; rfl)
        (by rw [hnumbers, List.map_append, ← numbers_eq hlength]; rfl)
      refine ⟨?_, hnext⟩
      rw [hentries, hdetector]
      exact .joins hadded
  | error e =>
      have hadded : (Call.add name text kind).added? = none :=
        congrArg Except.toOption hmake
      rw [hmake] at hdetector
      rw [hadded] at hnumbers
      obtain ⟨hentries, hnext⟩ := entries_of_same hlength hdetector hnumbers
      refine ⟨?_, hnext⟩
      rw [hentries, hdetector]
      exact .fails hadded rfl nofun nofun

theorem step_pattern (text : String) :
    let next := r.call (.pattern text)
    Step r (.pattern text) next.entries next.detector.unsorted
        next.suppliers
      ∧ next.detector.templates.length = next.numbers.length := by
  intro next
  have hnumbers : next.numbers
      = if (Call.pattern text).user?.isSome then
          r.next :: (r.entries.filter (·.1.source.isNone)).map (·.2)
        else r.numbers := rfl
  have hdetector : next.detector
      = match (r.detector.setPattern text).value with
        | .ok d => d
        | .error _ => r.detector := rfl
  unfold Detector.setPattern at hdetector
  cases hread : Template.ofFields text with
  | ok t =>
      have huser : (Call.pattern text).user? = some t :=
        congrArg Except.toOption hread
      rw [hread] at hdetector
      rw [huser, Option.isSome_some, if_pos rfl] at hnumbers
      obtain ⟨hentries, hnext⟩ := entries_eq (r := next)
        (l := (t, r.next) :: r.entries.filter (·.1.source.isNone))
        (by
          rw [hdetector]
          show t :: r.detector.templates.filter _ = _
          rw [templates_eq hlength, List.filter_map]
          rfl)
        hnumbers
      refine ⟨?_, hnext⟩
      rw [hentries, hdetector]
      exact .sets huser
  | error e =>
      have huser : (Call.pattern text).user? = none :=
        congrArg Except.toOption hread
      rw [hread] at hdetector
      rw [huser] at hnumbers
      obtain ⟨hentries, hnext⟩ := entries_of_same hlength hdetector hnumbers
      refine ⟨?_, hnext⟩
      rw [hentries, hdetector]
      exact .fails rfl huser nofun nofun

/-- A call does one of these things. -/
theorem step_call (c : Call) :
    Step r c (r.call c).entries (r.call c).detector.unsorted
        (r.call c).suppliers
      ∧ (r.call c).detector.templates.length = (r.call c).numbers.length := by
  cases c with
  | find line now => exact step_find hlength line now
  | sort => exact step_sort hlength
  | add name text kind => exact step_add hlength name text kind
  | pattern text => exact step_pattern hlength text

omit hlength

-- ============================================================= account

/-- The templates that came with calls, numbered by their calls. -/
def joined (pick : Call → Option Template) (calls : List Call) :
    List (Template × Nat) :=
  (calls.zipIdx firstNumber).filterMap fun c => (pick c.1).map (·, c.2)

/-- The templates that should be there after some calls: the built-in
ones, those that were added, and the last one that the user set. -/
def standing (calls : List Call) : List (Template × Nat) :=
  Builtin.templates.zipIdx ++ joined Call.added? calls
    ++ (joined Call.user? calls).getLast?.toList

theorem joined_concat (pick : Call → Option Template) (calls : List Call)
    (c : Call) :
    joined pick (calls ++ [c]) = joined pick calls
      ++ ((pick c).map (·, firstNumber + calls.length)).toList := by
  unfold joined
  rw [List.zipIdx_append, List.filterMap_append]
  cases h : pick c <;> simp [h]

/-- A call that brings no template changes nothing about those that should
be there. -/
theorem standing_concat_of_none {calls : List Call} {c : Call}
    (hadded : c.added? = none) (huser : c.user? = none) :
    standing (calls ++ [c]) = standing calls := by
  unfold standing
  rw [joined_concat, joined_concat, hadded, huser, Option.map_none,
    Option.toList_none, List.append_nil, List.append_nil]

/-- All but the user's template should be there again. -/
theorem filter_standing (calls : List Call) :
    (standing calls).filter (·.1.source.isNone)
      = Builtin.templates.zipIdx ++ joined Call.added? calls := by
  have hbuiltin : Builtin.templates.all (·.source.isNone) = true := rfl
  have hkeep : ∀ e ∈ Builtin.templates.zipIdx ++ joined Call.added? calls,
      e.1.source.isNone = true := by
    intro e he
    rcases List.mem_append.1 he with he | he
    · exact List.all_eq_true.1 hbuiltin e.1 (List.fst_mem_of_mem_zipIdx he)
    · obtain ⟨c, -, hc⟩ := List.mem_filterMap.1 he
      obtain ⟨t, ht, rfl⟩ := Option.map_eq_some_iff.1 hc
      rw [Option.isNone_iff_eq_none]
      exact (Call.added?_spec ht).1
  have hdrop : ∀ e ∈ (joined Call.user? calls).getLast?.toList,
      ¬ e.1.source.isNone = true := by
    intro e he
    have he := List.mem_of_getLast? (Option.mem_toList.1 he)
    obtain ⟨c, -, hc⟩ := List.mem_filterMap.1 he
    obtain ⟨t, ht, rfl⟩ := Option.map_eq_some_iff.1 hc
    obtain ⟨⟨text, hsource, -⟩, -⟩ := Call.user?_spec ht
    rw [hsource]
    nofun
  unfold standing
  rw [List.filter_append, List.filter_eq_self.2 hkeep,
    List.filter_eq_nil_iff.2 hdrop, List.append_nil]

/-- A register is right about some calls: its templates are those that
should be there, with the dates they supplied, and no number is given
twice. -/
structure Sound (r : Register) (calls : List Call) : Prop where
  length : r.detector.templates.length = r.numbers.length
  kept : (r.entries.map fun e => (e.1.fresh, e.2)).Perm (standing calls)
  counted : ∀ e ∈ r.entries, e.1.hits = r.hits e.2
  next : r.next = firstNumber + calls.length
  distinct : r.numbers.Nodup
  below : ∀ n ∈ r.numbers, n < r.next
  written : ∀ n ∈ r.suppliers, n < r.next

theorem sound_builtin (zone : Int) : Sound (builtin zone) [] := by
  have hfresh : Builtin.templates.all (·.hits == 0) = true := rfl
  have hentries : (builtin zone).entries = Builtin.templates.zipIdx := by
    rw [List.zipIdx_eq_zip_range']
    rfl
  constructor
  case kept =>
    rw [hentries]
    refine .of_eq ((List.map_congr_left fun e he => ?_).trans
      (List.map_id _))
    have hhits := List.all_eq_true.1 hfresh e.1 (List.fst_mem_of_mem_zipIdx he)
    obtain ⟨t, n⟩ := e
    show (t.fresh, n) = (t, n)
    unfold Template.fresh
    rw [← beq_iff_eq.1 hhits]
  case counted =>
    intro e he
    rw [hentries] at he
    exact beq_iff_eq.1
      (List.all_eq_true.1 hfresh e.1 (List.fst_mem_of_mem_zipIdx he))
  case distinct => exact List.nodup_range
  case below => exact fun n hn => List.mem_range.1 hn
  case written => exact nofun
  case length => rfl
  case next => rfl

variable {calls : List Call} {c : Call} {entries : List (Template × Nat)}
  {unsorted : Bool} {suppliers : List Nat}

namespace Step

/-- No template is lost, and none is there that should not be. -/
theorem kept (h : Step r c entries unsorted suppliers) (hr : Sound r calls) :
    (entries.map fun e => (e.1.fresh, e.2)).Perm (standing (calls ++ [c])) := by
  have hkept := hr.kept
  cases h with
  | supplies hentries =>
      rw [standing_concat_of_none rfl rfl]
      rw [hentries, List.map_append] at hkept
      rw [List.map_append]
      exact hkept
  | passes =>
      rw [standing_concat_of_none rfl rfl]
      exact hkept
  | sorts =>
      rw [standing_concat_of_none rfl rfl]
      exact ((List.mergeSort_perm _ _).map _).trans hkept
  | rests =>
      rw [standing_concat_of_none rfl rfl]
      exact hkept
  | @joins _ t hadded =>
      obtain ⟨-, hfresh, huser, -⟩ := Call.added?_spec hadded
      have hstanding : standing (calls ++ [c])
          = Builtin.templates.zipIdx ++ joined Call.added? calls
            ++ [(t, r.next)] ++ (joined Call.user? calls).getLast?.toList := by
        unfold standing
        rw [joined_concat, joined_concat, hadded, huser, hr.next]
        simp
      have hnew : (r.entries ++ [(t, r.next)]).map
            (fun e => (e.1.fresh, e.2))
          = r.entries.map (fun e => (e.1.fresh, e.2)) ++ [(t, r.next)] := by
        rw [List.map_append, List.map_singleton, hfresh]
      rw [hstanding, hnew]
      refine (hkept.append_right _).trans ?_
      unfold standing
      simp only [List.append_assoc]
      exact (List.perm_append_comm.append_left _).append_left _
  | @sets _ t huser =>
      obtain ⟨-, hfresh, hadded, -⟩ := Call.user?_spec huser
      have hstanding : standing (calls ++ [c])
          = Builtin.templates.zipIdx ++ joined Call.added? calls
            ++ [(t, r.next)] := by
        unfold standing
        rw [joined_concat, joined_concat, hadded, huser, hr.next]
        simp
      have hold : ((r.entries.filter (·.1.source.isNone)).map
            (fun e => (e.1.fresh, e.2))).Perm
          (Builtin.templates.zipIdx ++ joined Call.added? calls) := by
        have hfilter := hkept.filter (·.1.source.isNone)
        rw [filter_standing, List.filter_map] at hfilter
        exact hfilter
      rw [hstanding, List.map_cons, hfresh]
      exact (hold.cons (t, r.next)).trans (List.perm_append_singleton _ _).symm
  | fails hadded huser =>
      rw [standing_concat_of_none hadded huser]
      exact hkept

/-- The numbers are those of before, but for a new one. -/
theorem numbers (h : Step r c entries unsorted suppliers) (hr : Sound r calls) :
    (entries.map (·.2)).Nodup ∧ ∀ n ∈ entries.map (·.2), n < r.next + 1 := by
  have hnodup := hr.distinct
  have hbelow := hr.below
  rw [numbers_eq hr.length] at hnodup hbelow
  have hnew : r.next ∉ r.entries.map (·.2) := fun hmem =>
    Nat.lt_irrefl _ (hbelow _ hmem)
  have hbelow' : ∀ n ∈ r.entries.map (·.2), n < r.next + 1 := fun n hn =>
    Nat.lt_succ_of_lt (hbelow n hn)
  cases h with
  | supplies hentries =>
      rw [hentries, List.map_append] at hnodup hbelow'
      rw [List.map_append]
      exact ⟨hnodup, hbelow'⟩
  | passes => exact ⟨hnodup, hbelow'⟩
  | sorts =>
      have hperm : (r.sorted.map (·.2)).Perm (r.entries.map (·.2)) :=
        (List.mergeSort_perm _ _).map _
      exact ⟨hperm.nodup_iff.2 hnodup,
        fun n hn => hbelow' n (hperm.mem_iff.1 hn)⟩
  | rests => exact ⟨hnodup, hbelow'⟩
  | joins =>
      rw [List.map_append]
      refine ⟨List.nodup_append.2
        ⟨hnodup, List.pairwise_singleton _ _, ?_⟩, ?_⟩
      · rintro n hn _ hm rfl
        have hn' : n = r.next := List.mem_singleton.1 hm
        exact hnew (hn' ▸ hn)
      · intro n hn
        rcases List.mem_append.1 hn with hn | hn
        · exact hbelow' n hn
        · rw [List.mem_singleton.1 hn]
          exact Nat.lt_succ_self _
  | sets =>
      have hsub : ((r.entries.filter (·.1.source.isNone)).map (·.2)).Sublist
          (r.entries.map (·.2)) := List.filter_sublist.map _
      rw [List.map_cons]
      refine ⟨List.nodup_cons.2 ⟨fun hmem => hnew (hsub.mem hmem),
        hsub.nodup hnodup⟩, ?_⟩
      intro n hn
      rcases List.mem_cons.1 hn with rfl | hn
      · exact Nat.lt_succ_self _
      · exact hbelow' n (hsub.mem hn)
  | fails => exact ⟨hnodup, hbelow'⟩

/-- A date is credited to the template that supplied it, and to no
other. -/
theorem counted (h : Step r c entries unsorted suppliers) (hr : Sound r calls) :
    (∀ e ∈ entries, e.1.hits = suppliers.count e.2)
      ∧ ∀ n ∈ suppliers, n < r.next := by
  have hcounted := hr.counted
  have hwritten := hr.written
  -- who is new has not supplied anything
  have hnone : r.suppliers.count r.next = 0 :=
    List.count_eq_zero.2 fun hmem => Nat.lt_irrefl _ (hwritten _ hmem)
  have hzero : ∀ {t : Template}, t.fresh = t → t.hits = 0 := fun h => by
    rw [← h]
    rfl
  cases h with
  | @supplies _ _ t n before after _ hentries =>
      have hnodup := hr.distinct
      have hbelow := hr.below
      rw [numbers_eq hr.length, hentries, List.map_append, List.map_cons,
        List.nodup_append, List.nodup_cons] at hnodup
      rw [numbers_eq hr.length, hentries, List.map_append] at hbelow
      rw [hentries] at hcounted
      obtain ⟨-, ⟨hafter, -⟩, hapart⟩ := hnodup
      have hother : ∀ e : Template × Nat, e.2 ≠ n →
          e ∈ before ++ (t, n) :: after →
            e.1.hits = (r.suppliers ++ [n]).count e.2 := by
        intro e hne he
        rw [List.count_append, List.count_singleton, if_neg]
        · exact hcounted e he
        · simpa using hne.symm
      constructor
      · intro e he
        rcases List.mem_append.1 he with hin | hin
        · refine hother e ?_ (List.mem_append_left _ hin)
          exact hapart _ (List.mem_map_of_mem hin) _ List.mem_cons_self
        · rcases List.mem_cons.1 hin with rfl | hin
          · have ht := hcounted (t, n)
              (List.mem_append_right _ List.mem_cons_self)
            rw [List.count_append, List.count_singleton_self]
            exact congrArg (· + 1) ht
          · exact hother e (fun heq => hafter (List.mem_map.2 ⟨e, hin, heq⟩))
              (List.mem_append_right _ (List.mem_cons_of_mem _ hin))
      · intro m hm
        rcases List.mem_append.1 hm with hm | hm
        · exact hwritten m hm
        · rw [List.mem_singleton.1 hm]
          exact hbelow n (List.mem_append_right _ List.mem_cons_self)
  | passes => exact ⟨hcounted, hwritten⟩
  | sorts =>
      exact ⟨fun e he => hcounted e ((List.mergeSort_perm _ _).mem_iff.1 he),
        hwritten⟩
  | rests => exact ⟨hcounted, hwritten⟩
  | joins hadded =>
      refine ⟨fun e he => ?_, hwritten⟩
      rcases List.mem_append.1 he with he | he
      · exact hcounted e he
      · rw [List.mem_singleton.1 he, hnone]
        exact hzero (Call.added?_spec hadded).2.1
  | sets huser =>
      refine ⟨fun e he => ?_, hwritten⟩
      rcases List.mem_cons.1 he with rfl | he
      · rw [hnone]
        exact hzero (Call.user?_spec huser).2.1
      · exact hcounted e (List.mem_filter.1 he).1
  | fails => exact ⟨hcounted, hwritten⟩

end Step

theorem sound_call (hr : Sound r calls) (c : Call) :
    Sound (r.call c) (calls ++ [c]) := by
  obtain ⟨hstep, hlength⟩ := step_call hr.length c
  obtain ⟨hcounted, hwritten⟩ := hstep.counted hr
  obtain ⟨hdistinct, hbelow⟩ := hstep.numbers hr
  refine ⟨hlength, hstep.kept hr, hcounted, ?_, ?_, ?_, ?_⟩
  · rw [List.length_append]
    exact congrArg (· + 1) hr.next
  · rwa [numbers_eq hlength]
  · rwa [numbers_eq hlength]
  · exact fun n hn => Nat.lt_succ_of_lt (hwritten n hn)

theorem Sound.run (hr : Sound r calls) (more : List Call) :
    Sound (r.run more) (calls ++ more) := by
  induction more using List.reverseRecOn with
  | nil => rwa [List.append_nil]
  | append_singleton more c ih =>
      rw [run_concat, ← List.append_assoc]
      exact sound_call ih c

theorem sound_run (zone : Int) (calls : List Call) :
    Sound ((builtin zone).run calls) calls :=
  (sound_builtin zone).run calls

-- ============================================================ unsorted

/-- Whether a date was supplied since the last sorting. -/
def SuppliedSinceSort (zone : Int) (calls : List Call) : Prop :=
  ∃ before line now after, calls = before ++ .find line now :: after
    ∧ .sort ∉ after
    ∧ ((builtin zone).run before).supplier? line now ≠ none

theorem suppliedSinceSort_concat (zone : Int) (calls : List Call) (c : Call) :
    SuppliedSinceSort zone (calls ++ [c])
      ↔ (∃ line now, c = .find line now
          ∧ ((builtin zone).run calls).supplier? line now ≠ none)
        ∨ c ≠ .sort ∧ SuppliedSinceSort zone calls := by
  constructor
  · rintro ⟨before, line, now, after, hsplit, hsort, hfound⟩
    rcases List.eq_nil_or_concat after with rfl | ⟨after, d, rfl⟩
    · obtain ⟨rfl, hc⟩ := List.append_inj' hsplit rfl
      injection hc with hc
      exact .inl ⟨line, now, hc, hfound⟩
    · rw [List.concat_eq_append, List.mem_append, not_or,
        List.mem_singleton] at hsort
      rw [List.concat_eq_append, ← List.cons_append,
        ← List.append_assoc] at hsplit
      obtain ⟨hcalls, hc⟩ := List.append_inj' hsplit rfl
      injection hc with hc
      exact .inr ⟨hc ▸ Ne.symm hsort.2,
        before, line, now, after, hcalls, hsort.1, hfound⟩
  · rintro (⟨line, now, rfl, hfound⟩ |
      ⟨hsort, before, line, now, after, rfl, hafter, hfound⟩)
    · exact ⟨calls, line, now, [], rfl, List.not_mem_nil, hfound⟩
    · refine ⟨before, line, now, after ++ [c], by simp, ?_, hfound⟩
      rw [List.mem_append, List.mem_singleton, not_or]
      exact ⟨hafter, Ne.symm hsort⟩

theorem not_suppliedSinceSort_sort (zone : Int) (calls : List Call) :
    ¬ SuppliedSinceSort zone (calls ++ [.sort]) := by
  rw [suppliedSinceSort_concat]
  rintro (⟨_, _, heq, -⟩ | ⟨hne, -⟩)
  · cases heq
  · exact hne rfl

/-- A call that neither sorts nor supplies a date does not matter. -/
theorem suppliedSinceSort_concat_of_not {zone : Int} {calls : List Call}
    {c : Call} (hsort : c ≠ .sort)
    (hfind : ∀ line now, c = .find line now →
      ((builtin zone).run calls).supplier? line now = none) :
    SuppliedSinceSort zone (calls ++ [c]) ↔ SuppliedSinceSort zone calls := by
  rw [suppliedSinceSort_concat]
  constructor
  · rintro (⟨line, now, heq, hfound⟩ | ⟨-, h⟩)
    · exact absurd (hfind line now heq) hfound
    · exact h
  · exact fun h => .inr ⟨hsort, h⟩

/-- The mark of what is unsorted is set by the dates supplied, and taken
off by sorting. -/
theorem unsorted_iff (zone : Int) (calls : List Call) :
    ((builtin zone).run calls).detector.unsorted = true
      ↔ SuppliedSinceSort zone calls := by
  induction calls using List.reverseRecOn with
  | nil =>
      refine ⟨nofun, fun ⟨before, line, now, after, hsplit, _⟩ => ?_⟩
      simp at hsplit
  | append_singleton calls c ih =>
      have hr := sound_run zone calls
      rw [run_concat]
      generalize hrun : (builtin zone).run calls = r at hr ih ⊢
      have hstep := (step_call hr.length c).1
      generalize (r.call c).entries = entries,
        (r.call c).detector.unsorted = unsorted,
        (r.call c).suppliers = suppliers at hstep
      cases hstep with
      | @supplies line now _ _ _ _ _ hentries hbefore ht =>
          have hfound : r.supplier? line now ≠ none := by
            rw [supplier?_eq_some hentries hbefore ht]
            nofun
          rw [suppliedSinceSort_concat, hrun]
          exact iff_of_true rfl (.inl ⟨line, now, rfl, hfound⟩)
      | @passes line now hnone =>
          have hsort : Call.find line now ≠ .sort := nofun
          refine ih.trans (suppliedSinceSort_concat_of_not hsort ?_).symm
          rintro _ _ ⟨⟩
          rw [hrun]
          exact supplier?_eq_none hnone
      | sorts => exact iff_of_false nofun (not_suppliedSinceSort_sort _ _)
      | rests => exact iff_of_false nofun (not_suppliedSinceSort_sort _ _)
      | joins hadded =>
          refine ih.trans (suppliedSinceSort_concat_of_not
            (Call.added?_spec hadded).2.2.2 ?_).symm
          rintro _ _ rfl
          cases hadded
      | sets huser =>
          refine ih.trans (suppliedSinceSort_concat_of_not
            (Call.user?_spec huser).2.2.2 ?_).symm
          rintro _ _ rfl
          cases huser
      | fails _ _ hsort hfind =>
          exact ih.trans (suppliedSinceSort_concat_of_not hsort
            fun line now heq => absurd heq (hfind line now)).symm

-- ========================================================= the account

/-- After any calls the templates are the built-in ones, those that were
added, and the last one that the user set, each once; the hits of each are
the dates that it has supplied since it joined. What is unsorted is marked
as soon as a date is supplied, until the next sorting. That puts those
with more hits first and keeps the order of those with as many, and
without the mark it changes nothing. -/
theorem templates_are_kept_and_counted (zone : Int) (calls : List Call) :
    let r := (builtin zone).run calls
    let d := (Detector.builtin zone).run calls
    r.detector = d ∧ r.entries.map (·.1) = d.templates
    ∧ (r.entries.map fun e => (e.1.fresh, e.2)).Perm (standing calls)
    ∧ (r.entries.map (·.2)).Nodup
    ∧ (∀ e ∈ r.entries, e.1.hits = r.suppliers.count e.2)
    ∧ (d.unsorted = true ↔ SuppliedSinceSort zone calls)
    ∧ (d.unsorted = true →
      Detector.Descending d.sort.value.templates
      ∧ (∀ n, d.sort.value.templates.filter (·.hits = n)
        = d.templates.filter (·.hits = n))
      ∧ d.sort.value.unsorted = false ∧ d.sort.value.zone = d.zone)
    ∧ (d.unsorted = false → d.sort.value = d) := by
  intro r d
  have hr : Sound r calls := sound_run zone calls
  have hd : r.detector = d := detector_run _ _
  refine ⟨hd, ?_, hr.kept, ?_, hr.counted, ?_, ?_, ?_⟩
  · rw [← hd, templates_eq hr.length]
  · rw [← numbers_eq hr.length]
    exact hr.distinct
  · rw [← hd]
    exact unsorted_iff zone calls
  · intro hunsorted
    have hsort : d.sort.value
        = { d with templates := Detector.byHits d.templates
                   unsorted := false } := by
      unfold Detector.sort
      rw [if_pos hunsorted]
      rfl
    rw [hsort]
    exact ⟨Detector.pairwise_byHits _, Detector.filter_byHits _, rfl, rfl⟩
  · intro hsorted
    unfold Detector.sort
    rw [if_neg (by rw [hsorted]; nofun)]
    rfl

end Register

end Gatewatch.Date
