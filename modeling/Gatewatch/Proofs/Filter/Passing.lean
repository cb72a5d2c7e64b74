/-
The lines that a filter is given.

A filter counts offences and forgets the lines they came from. Here each
of its ways of taking lines has a twin that does the same work and also
yields the lines in the order in which they were processed; forgetting
them gives the work back (`addLines_eq`, `processFiles_eq`).

Whatever a line does to a filter, the filter goes on with the same files
and the same watcher (`SameFiles`).
-/
import Gatewatch.Filter.Basic
import Gatewatch.Proofs.Work

namespace Gatewatch.Filter

variable {σ : Type}

-- =========================================================== one line

/-- Reading a line changes the dates and the buffer of a filter. -/
theorem processLine_frame (f : Filter) (line : String) (now : Int)
    (names : Net.Resolver) :
    ∃ detector buffer, (f.processLine line now names).value.1
      = { f with detector, buffer } := by
  unfold processLine
  rw [Noted.value_bind]
  rcases (f.detector.detect line.toList now).value with ⟨detector, _ | d⟩
  · -- a line without a date
    dsimp only
    split
    case isTrue => exact ⟨detector, f.buffer, rfl⟩
    case isFalse => split <;> exact ⟨detector, _, rfl⟩
  · dsimp only
    split
    case isTrue => exact ⟨detector, f.buffer, rfl⟩
    case isFalse =>
      split
      case h_1 => exact ⟨detector, _, rfl⟩
      case h_2 => split <;> exact ⟨detector, _, rfl⟩

-- ========================================================== same files

/-- One filter reads and watches the files of another. -/
structure SameFiles (g f : Filter) : Prop where
  files : g.files = f.files
  watcher : g.watcher = f.watcher

namespace SameFiles

theorem refl (f : Filter) : SameFiles f f := ⟨rfl, rfl⟩

theorem trans {f g k : Filter} (hkg : SameFiles k g)
    (hgf : SameFiles g f) : SameFiles k f :=
  ⟨hkg.files.trans hgf.files, hkg.watcher.trans hgf.watcher⟩

/-- Paths that are not missing are noted as such, and trip nothing. -/
theorem noteMissing {e : Event} (hnone : e.missing = [])
    (paths : List String) (f : Filter) :
    ∃ g, (Filter.noteMissing e paths f).value = (g, false)
      ∧ SameFiles g f := by
  induction paths generalizing f with
  | nil => exact ⟨f, rfl, refl f⟩
  | cons path rest ih =>
      obtain ⟨g, hvalue, hsame⟩ := ih (f.setMisses path none)
      refine ⟨g, ?_, hsame.trans ⟨rfl, rfl⟩⟩
      unfold Filter.noteMissing
      rw [hnone]
      exact hvalue

section Lines

variable [Shell σ]

theorem countAll (f : Filter) (horizon : Int) (offences : List Offence)
    (h : Host σ) :
    SameFiles ((f.countAll horizon offences).result h).1 f := by
  induction offences generalizing f h with
  | nil => exact refl f
  | cons o rest ih =>
      unfold Filter.countAll
      split
      case isTrue => exact ih f _
      case isFalse =>
        rw [Work.result_bind]
        split
        case isTrue => exact ih f _
        case isFalse =>
          exact (ih { f with table := f.table.add o } _).trans ⟨rfl, rfl⟩

theorem addLine (f : Filter) (line : String) (h : Host σ) :
    SameFiles ((f.addLine line).result h).1 f := by
  obtain ⟨detector, buffer, hframe⟩ :=
    f.processLine_frame line h.now h.names
  have hline : SameFiles (f.processLine line h.now h.names).value.1 f := by
    rw [hframe]
    exact ⟨rfl, rfl⟩
  exact (countAll _ _ _ _).trans hline

theorem addLines (f : Filter) (lines : List String) (h : Host σ) :
    SameFiles ((f.addLines lines).result h).1 f := by
  induction lines generalizing f h with
  | nil => exact refl f
  | cons line rest ih => exact (ih _ _).trans (addLine f line h)

end Lines

end SameFiles

-- ===================================================== watched passing

section Lines

variable [Shell σ]

/-- Processes lines in order, like `addLines`, and tells which. -/
def tellLines (f : Filter) :
    List String → Work σ ((Filter × Nat) × List String)
  | [] => return ((f, 0), [])
  | line :: rest => do
    let (f, n) ← f.addLine line
    let ((f, m), told) ← tellLines f rest
    return ((f, n + m), line :: told)

/-- Reads and processes new lines, like `processFiles`, and tells
which. -/
def tellFiles (f : Filter) (paths : List String) :
    Work σ ((Filter × Nat) × List String) := do
  let tree ← Work.files
  let (files, lines) ← Work.ofNoted
    (f.readFiles tree (← Work.decoders) paths f.files)
  { f with files }.tellLines lines

theorem addLines_eq (f : Filter) (lines : List String) :
    (f.addLines lines : Work σ (Filter × Nat))
      = Prod.fst <$> f.tellLines lines := by
  induction lines generalizing f with
  | nil => simp [addLines, tellLines]
  | cons line rest ih => simp [addLines, tellLines, ih]

theorem processFiles_eq (f : Filter) (paths : List String) :
    (f.processFiles paths : Work σ (Filter × Nat))
      = Prod.fst <$> f.tellFiles paths := by
  simp [processFiles, tellFiles, addLines_eq]

/-- Every line is processed, in order. -/
theorem told_tellLines (f : Filter) (lines : List String) (h : Host σ) :
    ((f.tellLines lines).result h).2 = lines := by
  induction lines generalizing f h with
  | nil => rfl
  | cons line rest ih => exact congrArg (line :: ·) (ih _ _)

/-- The filter after lines, with the lines. -/
theorem result_tellLines (f : Filter) (lines : List String)
    (h : Host σ) :
    (f.tellLines lines).result h
      = ((f.addLines lines).result h, lines) := by
  rw [addLines_eq, Work.result_map]
  exact Prod.ext rfl (told_tellLines f lines h)

end Lines

end Gatewatch.Filter
