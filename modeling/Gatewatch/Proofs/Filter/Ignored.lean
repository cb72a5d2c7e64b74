/-
What a filter counts, and what its ignore list keeps out.

# What is counted

Of the offences that a line tells of, those are handed to the table that
are recent enough and that the ignore list does not ignore
(`result_addLine`). Reading lines changes neither the list nor the way
names are treated, so this holds of any run of lines (`table_reading`).

# What is kept out

Without name resolution the source of an offence is a network block, and
the list looks at the base of that block alone. So a source that is
counted has its base outside of every ignored network, but the rest of
it may reach into one: exactly when that network is a part of the source
(`counted_meets_iff`). A source that is a single host has no parts.
-/
import Gatewatch.Proofs.Filter.Buffer
import Gatewatch.Proofs.Net.Block
import Gatewatch.Shell.Script

namespace Gatewatch.Filter

open Net (Address Block IgnoreEntry)

variable {σ : Type}

-- =========================================================== one line

/-- An offence that is to be counted: it is recent enough, and its
source is not on the ignore list. -/
def counts (f : Filter) (names : Net.Resolver) (horizon : Int)
    (o : Offence) : Bool :=
  !decide (o.time < horizon) && !f.ignored.ignores o.source names

/-- The offences of a line that are to be counted. -/
def countedOf (f : Filter) (h : Host σ) (line : String) : List Offence :=
  (f.processLine line h.now h.names).value.2.filter
    (f.counts h.names (Offence.horizon h.now f.table.findTime))

/-- The filter after offences were handed to its table, one by one. -/
def handing (f : Filter) (offences : List Offence) : Filter :=
  { f with table := offences.foldl Offence.Table.add f.table }

section Lines

variable [Shell σ]

/-- Without an ignore command, the list decides. -/
theorem result_isIgnored {f : Filter} (hask : f.ignoreCommand = "")
    (source : Address) (h : Host σ) :
    (f.isIgnored source).result h = f.ignored.ignores source h.names := by
  unfold isIgnored
  rw [Work.result_bind, Work.result_names, Work.after_names,
    Work.result_bind, Work.result_ofNoted, Net.IgnoreList.value_consult,
    hask]
  cases f.ignored.ignores source h.names <;> rfl

/-- Without an ignore command, nothing but lookups is done. -/
theorem onlyNotes_isIgnored {f : Filter} (hask : f.ignoreCommand = "")
    (source : Address) (h : Host σ) :
    (f.isIgnored source).OnlyNotes h := by
  unfold isIgnored
  refine Work.OnlyNotes.bind (h := h) ⟨[], rfl⟩ ?_
  refine Work.OnlyNotes.bind (Work.OnlyNotes.ofNoted _ _) ?_
  rw [hask]
  split <;> exact Work.OnlyNotes.pure _ _

/-- The offences to be counted are handed to the table. -/
theorem result_countAll {f : Filter} (hask : f.ignoreCommand = "")
    (horizon : Int) (offences : List Offence) (h : Host σ) :
    (f.countAll horizon offences).result h
      = (f.handing (offences.filter (f.counts h.names horizon)),
          (offences.filter (f.counts h.names horizon)).length) := by
  induction offences generalizing f h with
  | nil => rfl
  | cons o rest ih =>
      unfold countAll
      by_cases hold : o.time < horizon
      · have hskip : f.counts h.names horizon o = false := by
          unfold counts
          rw [decide_eq_true hold]
          rfl
        rw [if_pos hold, List.filter_cons_of_neg (by rw [hskip]; decide)]
        exact ih hask (h.record _)
      · rw [if_neg hold, Work.result_bind, result_isIgnored hask]
        have hnames := (onlyNotes_isIgnored hask o.source h).steady Host.steady_names
        generalize (f.isIgnored o.source).after h = looked at hnames ⊢
        rw [← hnames]
        cases hignored : f.ignored.ignores o.source looked.names with
        | true =>
            have hskip : f.counts looked.names horizon o = false := by
              unfold counts
              rw [hignored, Bool.not_true, Bool.and_false]
            rw [List.filter_cons_of_neg (by rw [hskip]; decide)]
            exact ih hask (looked.record _)
        | false =>
            have hcount : f.counts looked.names horizon o = true := by
              unfold counts
              rw [hignored, decide_eq_false hold]
              rfl
            rw [List.filter_cons_of_pos hcount, List.length_cons]
            have hnext : ∀ h : Host σ,
                (countAll { f with table := f.table.add o } horizon
                  rest).result h
                = (f.handing (o :: rest.filter (f.counts h.names horizon)),
                    (rest.filter (f.counts h.names horizon)).length) :=
              ih hask
            rw [if_neg (by decide), Work.result_bind, Work.result_bind,
              hnext]
            rfl

/-- A line is read, and its offences are counted. -/
theorem result_addLine {f : Filter} (hask : f.ignoreCommand = "")
    (line : String) (h : Host σ) :
    (f.addLine line).result h
      = ((f.processLine line h.now h.names).value.1.handing
            (f.countedOf h line),
          (f.countedOf h line).length) := by
  obtain ⟨detector, buffer, hframe⟩ :=
    processLine_frame f line h.now h.names
  have hask' : (f.processLine line h.now h.names).value.1.ignoreCommand
      = "" := by
    rw [hframe]
    exact hask
  have hcounts : (f.processLine line h.now h.names).value.1.counts
      = f.counts := by
    rw [hframe]
    rfl
  -- the offences are counted where the notes of the reading were left
  have hcounted := result_countAll hask'
    (Offence.horizon h.now f.table.findTime)
    (f.processLine line h.now h.names).value.2
    ((f.processLine line h.now h.names).notes.foldl Host.record h)
  rw [Host.steady_names.foldl_record, hcounts] at hcounted
  exact hcounted

-- =============================================================== runs

/-- The filter after lines, each read in surroundings of its own. -/
def reading : Filter → List (Host σ × String) → Filter
  | f, [] => f
  | f, (h, line) :: rest => reading ((f.addLine line).result h).1 rest

/-- The offences of lines that are to be counted, in order. -/
def countedIn : Filter → List (Host σ × String) → List Offence
  | _, [] => []
  | f, (h, line) :: rest =>
    f.countedOf h line ++ countedIn ((f.addLine line).result h).1 rest

/-- The settings that decide what is counted are those of another
filter. -/
structure SameRules (g f : Filter) : Prop where
  ignored : g.ignored = f.ignored
  useDns : g.useDns = f.useDns
  ignoreCommand : g.ignoreCommand = f.ignoreCommand

/-- A line leaves the settings as they are. -/
theorem SameRules.addLine {g f : Filter} (hsame : SameRules g f)
    (hask : f.ignoreCommand = "") (line : String) (h : Host σ) :
    SameRules ((g.addLine line).result h).1 f := by
  obtain ⟨detector, buffer, hframe⟩ :=
    processLine_frame g line h.now h.names
  rw [result_addLine (hsame.ignoreCommand.trans hask), hframe]
  exact ⟨hsame.ignored, hsame.useDns, hsame.ignoreCommand⟩

/-- The table is handed the offences that are to be counted, and no
others. -/
theorem table_reading {g f : Filter} (hsame : SameRules g f)
    (hask : f.ignoreCommand = "") (steps : List (Host σ × String)) :
    (g.reading steps).table
      = (g.countedIn steps).foldl Offence.Table.add g.table := by
  induction steps generalizing g with
  | nil => rfl
  | cons step rest ih =>
      obtain ⟨h, line⟩ := step
      have htable : ((g.addLine line).result h).1.table
          = (g.countedOf h line).foldl Offence.Table.add g.table := by
        obtain ⟨detector, buffer, hframe⟩ :=
          processLine_frame g line h.now h.names
        rw [result_addLine (hsame.ignoreCommand.trans hask), hframe]
        rfl
      unfold reading countedIn
      rw [ih (hsame.addLine hask line h), htable, List.foldl_append]

/-- What is counted passed the list, and comes from a host token; the
names in both were resolved alike. -/
theorem of_mem_countedIn {g f : Filter} (hsame : SameRules g f)
    (hask : f.ignoreCommand = "") {steps : List (Host σ × String)}
    {o : Offence} (ho : o ∈ g.countedIn steps) :
    ∃ names, f.ignored.ignores o.source names = false
      ∧ ∃ host, o.source ∈
          (Net.Token.read host f.useDns names).addresses := by
  induction steps generalizing g with
  | nil => cases ho
  | cons step rest ih =>
      obtain ⟨h, line⟩ := step
      unfold countedIn at ho
      rcases List.mem_append.1 ho with ho | ho
      · obtain ⟨hmem, hcounts⟩ := List.mem_filter.1 ho
        obtain ⟨-, hpassed⟩ := Bool.and_eq_true_iff.1 hcounts
        rw [hsame.ignored, Bool.not_eq_true'] at hpassed
        refine ⟨h.names, hpassed, ?_⟩
        rw [← hsame.useDns]
        exact source_of_processLine g line h.now h.names o hmem
      · exact ih (hsame.addLine hask line h) ho

-- ============================================================ the list

/-- A network on the list does not contain what passed it. -/
theorem contains_eq_false {l : Net.IgnoreList} {b n : Block}
    {names : Net.Resolver} (hpassed : l.ignores (.block b) names = false)
    (hn : IgnoreEntry.net n ∈ l.entries) : n.contains b = false := by
  unfold Net.IgnoreList.ignores at hpassed
  exact (Bool.eq_false_iff).2
    ((List.any_eq_false.1 hpassed) (IgnoreEntry.net n) hn)

/-- Whatever lines a filter reads, without name resolution and without
an ignore command: the table is handed offences of network blocks, and
such a block has an address in common with an ignored network exactly
when that network is a proper part of it. -/
theorem counted_meets_iff (f : Filter) (hdns : f.useDns = .no)
    (hask : f.ignoreCommand = "") (steps : List (Host σ × String)) :
    (f.reading steps).table
        = (f.countedIn steps).foldl Offence.Table.add f.table
      ∧ ∀ o ∈ f.countedIn steps, ∃ b, o.source = .block b
        ∧ ∀ n, IgnoreEntry.net n ∈ f.ignored.entries →
          (b.Meets n ↔ n.StrictlyInside b) := by
  have hsame : SameRules f f := ⟨rfl, rfl, rfl⟩
  refine ⟨table_reading hsame hask steps, ?_⟩
  intro o ho
  obtain ⟨names, hpassed, host, hsource⟩ :=
    of_mem_countedIn hsame hask ho
  rw [hdns] at hsource
  obtain ⟨b, hb⟩ := Net.block_of_no_dns hsource
  refine ⟨b, hb, fun n hn => ?_⟩
  rw [hb] at hpassed
  exact Block.meets_iff_of_not_contains (contains_eq_false hpassed hn)

end Lines

-- ========================================================= an instance

/-- The host 10.1.2.3. -/
def oneHost : Block where
  family := .v4
  base := 0x0a010203
  length := 32
  length_le := by decide
  base_lt := by decide
  aligned := by decide
  unmapped := nofun

/-- The network 10.0.0.0/8. -/
def tenNet : Block where
  family := .v4
  base := 0x0a000000
  length := 8
  length_le := by decide
  base_lt := by decide
  aligned := by decide
  unmapped := nofun

/-- A filter that takes what stands behind a word for the host, and
ignores the host 10.1.2.3. -/
def guarded : Filter where
  jail := "ssh"
  patterns := (({} : Patterns).addFail "from (?P<host>\\S+)$").toOption.getD {}
  detector := Date.Detector.builtin 0
  ignored := ({} : Net.IgnoreList).add "10.1.2.3" |>.1
  useDns := .no
  watcher := .polling []

/-- A line with a date, about that network. -/
def tenLine : Host Script × String :=
  ({ now := 1000000, files := Disk.Tree.initial, shell := {} },
    "0001000000 bad from 10.0.0.0/8")

/-- What that filter counts on that line. -/
theorem guarded_meets_iff :
    guarded.useDns = .no ∧ guarded.ignoreCommand = ""
      ∧ (guarded.reading [tenLine]).table
        = (guarded.countedIn [tenLine]).foldl Offence.Table.add
            guarded.table
      ∧ ∀ o ∈ guarded.countedIn [tenLine], ∃ b, o.source = .block b
        ∧ ∀ n, IgnoreEntry.net n ∈ guarded.ignored.entries →
          (b.Meets n ↔ n.StrictlyInside b) :=
  ⟨rfl, rfl, counted_meets_iff guarded rfl rfl [tenLine]⟩

/-- The network is counted, and the ignored host is in it. -/
theorem ignored_host_in_counted_net :
    guarded.patterns.failSources = ["from (?P<host>\\S+)$"]
      ∧ guarded.ignored.entries = [.net oneHost]
      ∧ (guarded.reading [tenLine]).table.entries.map
          Offence.Entry.source = [.block tenNet]
      ∧ tenNet.Meets oneHost := by
  refine ⟨?_, ?_, ?_, rfl, oneHost.base, ?_, oneHost.holds_base⟩
  · decide +kernel
  · decide +kernel
  · decide +kernel
  · exact ⟨by decide, by decide⟩

end Gatewatch.Filter
