/-
How a pattern is read, one piece at a time.

Outside of verbose mode nothing is skipped, and what the reader does is
told by the next character alone: each lemma is one turn of
`readChoice`, with what the readers of the parts gave as hypotheses, so
that a pattern is read by writing its turns one below the other. The
state of the reader is given by its four parts, and one unit of fuel goes
with each turn.
-/
import Gatewatch.Pattern.Written
import Mathlib.Data.List.MinMax
import Mathlib.Data.Option.Basic
import Mathlib.Order.Nat

namespace Gatewatch.Pattern

/-- The characters that mean something else than themselves. -/
def specialChars : List Char :=
  [')', '|', '(', '[', '?', '*', '+', '\x7b', '\\', '.', '^', '$']

variable {fuel groups : Nat} {flags : Flags} {names : List String}
  {branches : List Phrase} {items : List (Option Phrase)}
  {rest : List Char}

-- ============================================================= phrases

/-- Parts that stand side by side nest at most one deeper than the
deepest of them. -/
theorem joint_le {n : Nat} {heights : List Nat}
    (h : ∀ height ∈ heights, height ≤ n) : joint heights ≤ n + 1 := by
  unfold joint
  split
  · exact Nat.zero_le _
  · exact Nat.le_succ_of_le (h _ List.mem_cons_self)
  · exact Nat.succ_le_succ (List.max_le_of_forall_le _ n h)

namespace Phrase

theorem height_concat_le {n : Nat} {items : List (Option Phrase)}
    (h : ∀ a, some a ∈ items → a.height ≤ n) :
    (concat items).height ≤ n + 1 := by
  refine joint_le fun height hheight => ?_
  obtain ⟨item, hitem, rfl⟩ := List.mem_map.1 hheight
  cases item with
  | none => exact Nat.zero_le n
  | some a => exact h a hitem

theorem node_concat_some (phrases : List Phrase) :
    (concat (phrases.map some)).node = .concat (phrases.map node) := by
  simp [concat, List.filterMap_map, Function.comp_def]

end Phrase

-- ============================================================== reading

/-- A repetition without a question mark behind it is greedy. -/
theorem readGreed_eq (hgreed : rest.head? ≠ some '?') :
    readGreed ⟨rest, flags, groups, names⟩
      = (!flags.swapGreed, ⟨rest, flags, groups, names⟩) := by
  unfold readGreed
  cases rest with
  | nil => rfl
  | cons c rest =>
      have hc : c ≠ '?' := fun h => hgreed (congrArg some h)
      simp [hc]

section Plain

variable (hplain : flags.verbose = false)
include hplain

theorem skip_eq :
    Reader.skip ⟨rest, flags, groups, names⟩
      = ⟨rest, flags, groups, names⟩ := by
  unfold Reader.skip
  rw [hplain]
  rfl

-- A turn is one unfolding of the reader, and what it makes of the rest
-- of the pattern is left as it is.
attribute [local simp] readChoice

-- =============================================================== turns

/-- A character that stands for itself. -/
theorem readChoice_char {c : Char} (hc : c ∉ specialChars) :
    readChoice (fuel + 1) branches items
        ⟨c :: rest, flags, groups, names⟩
      = readChoice fuel branches (some ⟨charNode flags c, 0⟩ :: items)
        ⟨rest, flags, groups, names⟩ := by
  simp only [specialChars, List.mem_cons, not_or] at hc
  simp [skip_eq hplain, hc]

/-- Characters that stand for themselves. -/
theorem readChoice_chars {cs : List Char} (hcs : ∀ c ∈ cs, c ∉ specialChars) :
    readChoice (fuel + cs.length) branches items
        ⟨cs ++ rest, flags, groups, names⟩
      = readChoice fuel branches
        ((cs.map fun c => some ⟨charNode flags c, 0⟩).reverse ++ items)
        ⟨rest, flags, groups, names⟩ := by
  induction cs generalizing items with
  | nil => rfl
  | cons c cs ih =>
      rw [List.length_cons, ← Nat.add_assoc, List.cons_append,
        readChoice_char hplain (hcs c List.mem_cons_self),
        ih fun x hx => hcs x (List.mem_cons_of_mem c hx)]
      simp

/-- The end of the pattern. -/
theorem readChoice_nil :
    readChoice (fuel + 1) branches items
        ⟨[], flags, groups, names⟩
      = some (.choice (.concat items.reverse :: branches).reverse,
        ⟨[], flags, groups, names⟩) := by
  simp [skip_eq hplain]

/-- The end of a group. -/
theorem readChoice_close :
    readChoice (fuel + 1) branches items
        ⟨')' :: rest, flags, groups, names⟩
      = some (.choice (.concat items.reverse :: branches).reverse,
        ⟨')' :: rest, flags, groups, names⟩) := by
  simp [skip_eq hplain]

/-- Another alternative. -/
theorem readChoice_bar :
    readChoice (fuel + 1) branches items
        ⟨'|' :: rest, flags, groups, names⟩
      = readChoice fuel (.concat items.reverse :: branches) []
        ⟨rest, flags, groups, names⟩ := by
  simp [skip_eq hplain]

/-- A group. -/
theorem readChoice_open {a : Option Phrase} {after : Reader}
    (hgroup : readGroup fuel ⟨rest, flags, groups, names⟩
      = some (a, after)) :
    readChoice (fuel + 1) branches items
        ⟨'(' :: rest, flags, groups, names⟩
      = readChoice fuel branches (a :: items) after := by
  simp [skip_eq hplain, hgroup]

/-- A class in brackets. -/
theorem readChoice_class {part : Part} {after : Reader}
    (hclass : readClass fuel ⟨rest, flags, groups, names⟩
      = some (part, after)) :
    readChoice (fuel + 1) branches items
        ⟨'[' :: rest, flags, groups, names⟩
      = readChoice fuel branches
        (some ⟨.set part.set, part.height⟩ :: items) after := by
  simp [skip_eq hplain, hclass]

/-- A backslash. -/
theorem readChoice_escape {e : Escape} {node : Node} {after : Reader}
    (hescape : readEscape ⟨rest, flags, groups, names⟩ = some (e, after))
    (hnode : escapeNode after.flags e = some node) :
    readChoice (fuel + 1) branches items
        ⟨'\\' :: rest, flags, groups, names⟩
      = readChoice fuel branches (some ⟨node, 0⟩ :: items) after := by
  simp [skip_eq hplain, hescape, hnode]

/-- The start of the text, or of a line. -/
theorem readChoice_start :
    readChoice (fuel + 1) branches items
        ⟨'^' :: rest, flags, groups, names⟩
      = readChoice fuel branches (some ⟨startNode flags, 0⟩ :: items)
        ⟨rest, flags, groups, names⟩ := by
  simp [skip_eq hplain]

/-- The end of the text, or of a line. -/
theorem readChoice_end :
    readChoice (fuel + 1) branches items
        ⟨'$' :: rest, flags, groups, names⟩
      = readChoice fuel branches (some ⟨endNode flags, 0⟩ :: items)
        ⟨rest, flags, groups, names⟩ := by
  simp [skip_eq hplain]

-- ============================================================= classes

/-- The characters that a class reads otherwise than as its members. -/
def bracketChars : List Char := [']', '[', '-', '&', '~']

/-- A member, or a range of them. -/
theorem readItems_range {c : Char} {parts : List Part} {set : CharSet}
    {after : Reader} (hc : c ∉ bracketChars)
    (hrange : readRange ⟨c :: rest, flags, groups, names⟩
      = some (set, after)) :
    readItems (fuel + 1) none parts ⟨c :: rest, flags, groups, names⟩
      = readItems fuel none (⟨set, 0⟩ :: parts) after := by
  simp only [bracketChars, List.mem_cons, not_or] at hc
  rw [readItems]
  simp [skip_eq hplain, hc, hrange]

/-- The end of a class. -/
theorem readItems_close {parts : List Part} :
    readItems (fuel + 1) none parts ⟨']' :: rest, flags, groups, names⟩
      = some (.union parts, ⟨rest, flags, groups, names⟩) := by
  rw [readItems]
  simp [skip_eq hplain, applyOp]

/-- A class that begins with a member, where case matters. -/
theorem readClass_member {c : Char} {set : CharSet} {height : Nat}
    {after : Reader} (hc : c ∉ '^' :: bracketChars)
    (hcase : after.flags.caseless = false)
    (hitems : readItems fuel none [] ⟨c :: rest, flags, groups, names⟩
      = some (⟨set, height⟩, after)) :
    readClass (fuel + 1) ⟨c :: rest, flags, groups, names⟩
      = some (⟨set, height + 1⟩, after) := by
  simp only [bracketChars, List.mem_cons, not_or] at hc
  rw [readClass]
  simp [skip_eq hplain, readHyphens, foldSet, hc, hcase, hitems, guard]

-- ========================================================= repetitions

/-- A question mark. -/
theorem readChoice_question {last : Phrase} {others : List (Option Phrase)}
    (hgreed : rest.head? ≠ some '?') :
    readChoice (fuel + 1) branches (some last :: others)
        ⟨'?' :: rest, flags, groups, names⟩
      = readChoice fuel branches
        (some (last.repeated 0 (some 1) (!flags.swapGreed)) :: others)
        ⟨rest, flags, groups, names⟩ := by
  simp [skip_eq hplain, readGreed_eq hgreed]

/-- Counts in braces. -/
theorem readChoice_counts {last : Phrase} {others : List (Option Phrase)}
    {low : Nat} {high : Option Nat} {more : List Char}
    (hcounts : readCounts ⟨rest, flags, groups, names⟩
      = some ((low, high), ⟨more, flags, groups, names⟩))
    (hgreed : more.head? ≠ some '?') :
    readChoice (fuel + 1) branches (some last :: others)
        ⟨'\x7b' :: rest, flags, groups, names⟩
      = readChoice fuel branches
        (some (last.repeated low high (!flags.swapGreed)) :: others)
        ⟨more, flags, groups, names⟩ := by
  simp [skip_eq hplain, readGreed_eq hgreed, hcounts, guard]

/-- A star. -/
theorem readChoice_star {last : Phrase} {others : List (Option Phrase)}
    (hgreed : rest.head? ≠ some '?') :
    readChoice (fuel + 1) branches (some last :: others)
        ⟨'*' :: rest, flags, groups, names⟩
      = readChoice fuel branches
        (some (last.repeated 0 none (!flags.swapGreed)) :: others)
        ⟨rest, flags, groups, names⟩ := by
  simp [skip_eq hplain, readGreed_eq hgreed]

end Plain

-- ============================================================== groups

variable {a : Phrase} {inner : Flags} {count : Nat}
  {used : List String} {more : List Char}

/-- A group that is not recorded. -/
theorem readGroup_colon
    (hbody : readChoice fuel [] []
      ⟨rest, flags, groups, names⟩
        = some (a, ⟨')' :: more, inner, count, used⟩)) :
    readGroup (fuel + 1) ⟨'?' :: ':' :: rest, flags, groups, names⟩
      = some (some a.inner, ⟨more, flags, count, used⟩) := by
  rw [readGroup]
  simp [readFlags, hbody]

/-- A group with a name. -/
theorem readGroup_named {name : String} {after : List Char}
    (hname : readName ⟨rest, flags, groups + 1, names⟩
      = some (name, ⟨after, flags, groups + 1, name :: names⟩))
    (hbody : readChoice fuel [] []
      ⟨after, flags, groups + 1, name :: names⟩
        = some (a, ⟨')' :: more, inner, count, used⟩)) :
    readGroup (fuel + 1) ⟨'?' :: 'P' :: '<' :: rest, flags, groups, names⟩
      = some (some (a.group (groups + 1) (some name)),
        ⟨more, flags, count, used⟩) := by
  rw [readGroup]
  simp [hname, hbody]

end Gatewatch.Pattern
