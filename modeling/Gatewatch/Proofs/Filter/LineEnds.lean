/-
The complete lines of some bytes.

Bytes are lines with their ends and a rest without one
(`completeLines_spec`), and complete lines at the front can be cut off
(`completeLines_joined`). So what was cut already and what is cut of the
bytes behind it are the lines of the whole.

The lines that bytes hold are told without the scanner: the bytes split
at the line ends, all but the last piece, which no line end follows
(`linesIn`). Each of them is read as what it spells (`spells_textsIn`).
-/
import Mathlib.Data.List.Basic
import Gatewatch.Filter.LogFile
import Gatewatch.Proofs.Text.Spelling

namespace Gatewatch.Filter

-- ===================================================== cutting lines

/-- Lines with their ends. -/
def joined (lines : List (List UInt8)) : List UInt8 :=
  lines.flatMap (· ++ [lineEnd])

@[simp] theorem joined_nil : joined [] = [] := rfl

@[simp] theorem joined_cons (line : List UInt8)
    (lines : List (List UInt8)) :
    joined (line :: lines) = line ++ lineEnd :: joined lines := by
  simp [joined]

@[simp] theorem joined_append (a b : List (List UInt8)) :
    joined (a ++ b) = joined a ++ joined b := List.flatMap_append ..

/-- Lines and their ends take up their span. -/
theorem length_joined (lines : List (List UInt8)) :
    (joined lines).length = spanOf lines := by
  induction lines with
  | nil => rfl
  | cons line rest ih =>
      simp only [joined_cons, List.length_append, List.length_cons, ih,
        spanOf]
      omega

/-- More lines take up more of a span. -/
theorem spanOf_append (a b : List (List UInt8)) :
    spanOf (a ++ b) = spanOf a + spanOf b := by
  rw [← length_joined, ← length_joined, ← length_joined, joined_append,
    List.length_append]

/-- Lines without a line end inside. -/
def Whole (lines : List (List UInt8)) : Prop := ∀ l ∈ lines, lineEnd ∉ l

/-- The scanner splits at the line ends and leaves the last piece. -/
theorem cutLines_eq (done : List (List UInt8)) (line bytes : List UInt8) :
    cutLines done line bytes
      = done.reverse
        ++ (bytes.splitOnPPrepend (· == lineEnd) line).dropLast := by
  induction bytes generalizing done line with
  | nil => simp [cutLines]
  | cons b rest ih =>
      by_cases hb : b = lineEnd
      · rw [cutLines, if_pos hb, ih,
          List.splitOnPPrepend_cons_pos (by simpa using hb),
          List.dropLast_cons_of_ne_nil (List.splitOnP_ne_nil _ _)]
        simp
      · rw [cutLines, if_neg hb, ih,
          List.splitOnPPrepend_cons_neg (by simpa using hb)]

/-- The complete lines are the pieces that a line end follows. -/
theorem completeLines_eq (bytes : List UInt8) :
    completeLines bytes = (bytes.splitOn lineEnd).dropLast := by
  unfold completeLines
  rw [cutLines_eq]
  rfl

/-- Complete lines at the front are cut off. -/
theorem completeLines_joined {lines : List (List UInt8)}
    (h : Whole lines) (rest : List UInt8) :
    completeLines (joined lines ++ rest) = lines ++ completeLines rest := by
  induction lines with
  | nil => rfl
  | cons line lines ih =>
      have hline : lineEnd ∉ line := h line (List.mem_cons_self ..)
      have hlines := ih fun l hl => h l (List.mem_cons_of_mem _ hl)
      rw [completeLines_eq] at hlines ⊢
      rw [joined_cons, List.append_assoc, List.cons_append,
        List.splitOn_append_cons_self_of_not_mem hline,
        List.dropLast_cons_of_ne_nil (List.splitOn_ne_nil _ _), hlines]
      rfl

/-- Some bytes are their complete lines and a rest. -/
theorem completeLines_spec (bytes : List UInt8) :
    Whole (completeLines bytes)
      ∧ ∃ rest, bytes = joined (completeLines bytes) ++ rest
        ∧ lineEnd ∉ rest := by
  -- the pieces of the scanner, with what it holds of the current line
  have hscan : ∀ (done : List (List UInt8)) (line : List UInt8),
      lineEnd ∉ line → ∃ lines rest,
        cutLines done line bytes = done.reverse ++ lines ∧ Whole lines
          ∧ line.reverse ++ bytes = joined lines ++ rest
          ∧ lineEnd ∉ rest := by
    induction bytes with
    | nil =>
        intro done line hline
        exact ⟨[], line.reverse, (List.append_nil _).symm, nofun,
          List.append_nil _, by simpa using hline⟩
    | cons b bytes ih =>
        intro done line hline
        by_cases hb : b = lineEnd
        · obtain ⟨lines, rest, hcut, hwhole, hbytes, hrest⟩ :=
            ih (line.reverse :: done) [] (List.not_mem_nil)
          refine ⟨line.reverse :: lines, rest, ?_, ?_, ?_, hrest⟩
          · rw [cutLines, if_pos hb, hcut]
            simp
          · intro l hl
            rcases List.mem_cons.1 hl with rfl | hl
            · simpa using hline
            · exact hwhole l hl
          · rw [joined_cons, List.append_assoc, List.cons_append, hb,
              ← hbytes]
            rfl
        · obtain ⟨lines, rest, hcut, hwhole, hbytes, hrest⟩ :=
            ih done (b :: line) (by
              rintro (_ | ⟨_, h⟩)
              · exact hb rfl
              · exact hline h)
          refine ⟨lines, rest, ?_, hwhole, ?_, hrest⟩
          · rw [cutLines, if_neg hb, hcut]
          · rw [← hbytes]
            simp
  obtain ⟨lines, rest, hcut, hwhole, hbytes, hrest⟩ :=
    hscan [] [] List.not_mem_nil
  have hlines : completeLines bytes = lines := hcut
  rw [hlines]
  exact ⟨hwhole, rest, hbytes, hrest⟩

/-- The first line stays when something is put behind its end. -/
theorem firstLine_append {bytes : List UInt8} (h : lineEnd ∈ bytes)
    (more : List UInt8) : firstLine (bytes ++ more) = firstLine bytes := by
  induction bytes with
  | nil => cases h
  | cons b rest ih =>
      by_cases hb : b = lineEnd
      · simp [firstLine, hb]
      · have hrest : lineEnd ∈ rest := by
          rcases List.mem_cons.1 h with h | h
          · exact absurd h.symm hb
          · exact h
        simp [firstLine, hb, ih hrest]

/-- A first line that is unfinished goes on. -/
theorem firstLine_append_of_not_mem {bytes : List UInt8}
    (h : lineEnd ∉ bytes) (more : List UInt8) :
    firstLine (bytes ++ more) = bytes ++ firstLine more := by
  induction bytes with
  | nil => rfl
  | cons b rest ih =>
      rw [List.mem_cons, not_or] at h
      rw [List.cons_append, firstLine, if_neg (Ne.symm h.1), ih h.2]
      rfl

/-- Where there is a byte there is a first line. -/
theorem firstLine_ne_nil (b : UInt8) (bytes : List UInt8) :
    firstLine (b :: bytes) ≠ [] := by
  unfold firstLine
  split <;> nofun

/-- Without a line end no line is complete. -/
theorem completeLines_of_not_mem {bytes : List UInt8}
    (h : lineEnd ∉ bytes) : completeLines bytes = [] := by
  obtain ⟨-, rest, hbytes, -⟩ := completeLines_spec bytes
  cases hlines : completeLines bytes with
  | nil => rfl
  | cons line others =>
      rw [hlines] at hbytes
      rw [hbytes] at h
      simp at h

-- ===================================================== texts of lines

/-- A line without one return at its end. -/
theorem withoutReturn_eq (line : List UInt8) :
    withoutReturn line
      = if line.getLast? = some carriageReturn then line.dropLast
        else line := by
  unfold withoutReturn
  rcases List.eq_nil_or_concat' line with rfl | ⟨front, b, rfl⟩
  · rfl
  · simp

/-- The texts of some lines, the empty ones left out. -/
def textsOf (decoders : Text.Decoders) (charset : Text.Charset)
    (lines : List (List UInt8)) : List String :=
  (lines.filter fun l => !l.isEmpty).map fun l =>
    charset.decode (withoutReturn l) decoders

@[simp] theorem textsOf_append (decoders : Text.Decoders)
    (charset : Text.Charset) (a b : List (List UInt8)) :
    textsOf decoders charset (a ++ b)
      = textsOf decoders charset a ++ textsOf decoders charset b := by
  simp [textsOf]

/-- The lines that some bytes hold: the pieces that a line end follows,
the empty ones left out, without one return at the end. -/
def linesIn (bytes : List UInt8) : List (List UInt8) :=
  ((bytes.splitOn lineEnd).dropLast.filter (· ≠ [])).map fun line =>
    if line.getLast? = some carriageReturn then line.dropLast else line

/-- The texts of the lines that some bytes hold. -/
def textsIn (decoders : Text.Decoders) (charset : Text.Charset)
    (bytes : List UInt8) : List String :=
  (linesIn bytes).map fun line => charset.decode line decoders

/-- The texts of the complete lines are those that the bytes hold. -/
theorem textsOf_completeLines (decoders : Text.Decoders)
    (charset : Text.Charset) (bytes : List UInt8) :
    textsOf decoders charset (completeLines bytes)
      = textsIn decoders charset bytes := by
  unfold textsOf textsIn linesIn
  rw [completeLines_eq, List.map_map]
  simp only [withoutReturn_eq]
  refine congrArg _ (List.filter_congr fun line _ => ?_)
  cases line <;> rfl

/-- Each line that some bytes hold spells the text that it is read as. -/
theorem spells_textsIn (decoders : Text.Decoders) (charset : Text.Charset)
    (bytes : List UInt8) :
    List.Forall₂ (charset.Spells decoders) (linesIn bytes)
      (textsIn decoders charset bytes) := by
  unfold textsIn
  rw [List.forall₂_map_right_iff, List.forall₂_same]
  exact fun line _ => charset.spells_decode decoders line

/-- There is one text only that a line spells. -/
theorem eq_textsIn_of_spells {decoders : Text.Decoders}
    {charset : Text.Charset} {bytes : List UInt8} {texts : List String}
    (h : List.Forall₂ (charset.Spells decoders) (linesIn bytes) texts) :
    texts = textsIn decoders charset bytes :=
  have hunique : Relator.RightUnique (charset.Spells decoders) :=
    fun _ _ _ => Text.Charset.Spells.unique
  List.right_unique_forall₂' hunique h (spells_textsIn decoders charset bytes)

end Gatewatch.Filter
