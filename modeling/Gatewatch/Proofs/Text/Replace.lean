/-
Replacing a mark in texts that stand one behind the other.

An occurrence of a mark in a text of two parts begins in one of them. A
part in which none begins stays as it is
(`replaceChars_append_of_not_begins`), and a part that does not end in
the midst of a mark is replaced by itself
(`replaceChars_append_of_not_endsWithin`), whatever stands behind.

A mark whose first character occurs in it once never overlaps itself, so
every occurrence counts: each changes the length of the text by as much
(`length_replaceChars`). The number of occurrences adds up over the parts
of a text, each told with what stands behind it (`countIn_append`).
-/
import Mathlib.Data.List.Infix
import Gatewatch.Text.Replace

namespace Gatewatch.Text

variable {mark value a x : List Char}

/-- A mark begins in a text that has another behind it. -/
def Begins (mark a x : List Char) : Prop :=
  ∃ back, back ≠ [] ∧ back <:+ a ∧ mark <+: back ++ x

/-- A text ends in the midst of a mark. -/
def EndsWithin (mark a : List Char) : Prop :=
  ∃ p q, p ≠ [] ∧ q ≠ [] ∧ mark = p ++ q ∧ p <:+ a

/-- Where no mark begins nothing is replaced. -/
theorem replaceChars_append_of_not_begins (h : ¬ Begins mark a x) :
    replaceChars mark value (a ++ x) = a ++ replaceChars mark value x := by
  induction a with
  | nil => rfl
  | cons c cs ih =>
      have hnot : ¬ mark <+: c :: (cs ++ x) := fun hmark =>
        h ⟨c :: cs, nofun, List.suffix_rfl, hmark⟩
      have hrest : ¬ Begins mark cs x := fun ⟨back, hne, hback, hmark⟩ =>
        h ⟨back, hne, hback.trans (List.suffix_cons ..), hmark⟩
      rw [List.cons_append, replaceChars, if_neg, ih hrest,
        List.cons_append]
      rw [List.isPrefixOf_iff_prefix]
      exact fun hmark => hnot hmark.2

/-- A mark in front is replaced. -/
theorem replaceChars_mark_append (hmark : mark ≠ []) :
    replaceChars mark value (mark ++ x)
      = value ++ replaceChars mark value x := by
  obtain ⟨c, cs, rfl⟩ := List.exists_cons_of_ne_nil hmark
  have hfront : (c :: cs).isPrefixOf (c :: (cs ++ x)) = true :=
    List.isPrefixOf_iff_prefix.2 (List.prefix_append (c :: cs) x)
  rw [List.cons_append, replaceChars, if_pos ⟨hmark, hfront⟩,
    List.length_cons, Nat.add_sub_cancel, List.drop_left]

/-- A part at the end of what does not end in the midst of a mark does
not either. -/
theorem not_endsWithin_of_suffix {b : List Char} (hb : b <:+ a)
    (h : ¬ EndsWithin mark a) : ¬ EndsWithin mark b :=
  fun ⟨p, q, hp, hq, hmark, hend⟩ => h ⟨p, q, hp, hq, hmark, hend.trans hb⟩

/-- What ends in the midst of a mark does so in its last part, or that
part as a whole is in the midst of a mark. -/
theorem EndsWithin.of_append {b : List Char}
    (h : EndsWithin mark (a ++ b)) :
    EndsWithin mark b ∨ ∃ s q, s ≠ [] ∧ q ≠ [] ∧ s <:+ a
      ∧ mark = s ++ b ++ q := by
  obtain ⟨p, q, hp, hq, hmark, hend⟩ := h
  rcases List.suffix_or_suffix_of_suffix hend (List.suffix_append a b)
    with hlast | ⟨s, rfl⟩
  · exact .inl ⟨p, q, hp, hq, hmark, hlast⟩
  · by_cases hs : s = []
    · rw [hs, List.nil_append] at hp hmark
      exact .inl ⟨b, q, hp, hq, hmark, List.suffix_rfl⟩
    · obtain ⟨front, hfront⟩ := hend
      rw [← List.append_assoc] at hfront
      exact .inr ⟨s, q, hs, hq, ⟨front, List.append_cancel_right hfront⟩,
        hmark⟩

theorem not_endsWithin_nil : ¬ EndsWithin mark [] :=
  fun ⟨_, _, hp, _, _, hend⟩ => hp (List.suffix_nil.1 hend)

/-- What does not end in the midst of a mark is replaced by itself. -/
theorem replaceChars_append_of_not_endsWithin
    (h : ¬ EndsWithin mark a) :
    replaceChars mark value (a ++ x)
      = replaceChars mark value a ++ replaceChars mark value x := by
  fun_induction replaceChars mark value a with
  | case1 => rfl
  | case2 c cs hmark ih =>
      obtain ⟨hne, hfront⟩ := hmark
      rw [List.isPrefixOf_iff_prefix] at hfront
      have hboth : mark <+: c :: (cs ++ x) :=
        hfront.trans (List.prefix_append (c :: cs) x)
      have hlength : mark.length - 1 ≤ cs.length := by
        have := hfront.length_le
        rw [List.length_cons] at this
        omega
      have hend : cs.drop (mark.length - 1) <:+ c :: cs :=
        (List.drop_suffix ..).trans (List.suffix_cons ..)
      rw [List.cons_append, replaceChars,
        if_pos ⟨hne, List.isPrefixOf_iff_prefix.2 hboth⟩,
        List.drop_append_of_le_length hlength,
        ih (not_endsWithin_of_suffix hend h), List.append_assoc]
  | case3 c cs hmark ih =>
      have hnot : ¬ (mark ≠ [] ∧ mark.isPrefixOf (c :: (cs ++ x))) := by
        rintro ⟨hne, hboth⟩
        rw [List.isPrefixOf_iff_prefix] at hboth
        -- a mark that begins here and is not in the first part ends
        -- behind it
        rcases List.prefix_or_prefix_of_prefix hboth
          (List.prefix_append (c :: cs) x) with hfront | ⟨q, hq⟩
        · exact hmark ⟨hne, List.isPrefixOf_iff_prefix.2 hfront⟩
        · by_cases hnil : q = []
          · rw [hnil, List.append_nil] at hq
            exact hmark ⟨hne, List.isPrefixOf_iff_prefix.2
              (hq ▸ List.prefix_rfl)⟩
          · exact h ⟨c :: cs, q, nofun, hnil, hq.symm, List.suffix_rfl⟩
      rw [List.cons_append, replaceChars, if_neg hnot,
        ih (not_endsWithin_of_suffix (List.suffix_cons ..) h),
        List.cons_append]

/-- How many times a mark begins in a text that has another behind it. -/
def countIn (mark : List Char) : List Char → List Char → Nat
  | [], _ => 0
  | c :: cs, x =>
    countIn mark cs x + if mark.isPrefixOf (c :: (cs ++ x)) then 1 else 0

theorem countIn_append (mark a b x : List Char) :
    countIn mark (a ++ b) x
      = countIn mark a (b ++ x) + countIn mark b x := by
  induction a with
  | nil => simp [countIn]
  | cons c cs ih =>
      simp only [List.cons_append, countIn, ih, List.append_assoc]
      omega

/-- What begins in a text begins in it whatever stands behind. -/
theorem countIn_le (mark a x : List Char) :
    countIn mark a [] ≤ countIn mark a x := by
  induction a with
  | nil => exact Nat.le_refl 0
  | cons c cs ih =>
      unfold countIn
      refine Nat.add_le_add ih ?_
      rw [List.append_nil]
      split
      case isTrue hfront =>
        rw [List.isPrefixOf_iff_prefix] at hfront
        have hboth : mark <+: c :: (cs ++ x) :=
          hfront.trans (List.prefix_append (c :: cs) x)
        rw [if_pos (List.isPrefixOf_iff_prefix.2 hboth)]
      case isFalse => exact Nat.zero_le _

theorem begins_of_countIn_pos (h : 0 < countIn mark a x) :
    Begins mark a x := by
  induction a with
  | nil => cases h
  | cons c cs ih =>
      unfold countIn at h
      split at h
      case isTrue hfront =>
        exact ⟨c :: cs, nofun, List.suffix_rfl,
          List.isPrefixOf_iff_prefix.1 hfront⟩
      case isFalse =>
        obtain ⟨back, hne, hback, hmark⟩ := ih h
        exact ⟨back, hne, hback.trans (List.suffix_cons ..), hmark⟩

theorem countIn_pos_of_begins (h : Begins mark a x) :
    0 < countIn mark a x := by
  obtain ⟨back, hne, ⟨front, rfl⟩, hmark⟩ := h
  obtain ⟨c, cs, rfl⟩ := List.exists_cons_of_ne_nil hne
  have hback : 0 < countIn mark (c :: cs) x := by
    unfold countIn
    rw [← List.cons_append, if_pos (List.isPrefixOf_iff_prefix.2 hmark)]
    omega
  rw [countIn_append]
  omega

/-- No mark begins where its first character is not. -/
theorem countIn_eq_zero {c : Char} {tail : List Char} (h : c ∉ a) :
    countIn (c :: tail) a x = 0 := by
  by_contra hne
  obtain ⟨back, hback, hend, hmark⟩ :=
    begins_of_countIn_pos (Nat.pos_of_ne_zero hne)
  obtain ⟨d, ds, rfl⟩ := List.exists_cons_of_ne_nil hback
  obtain rfl : c = d := (List.cons_prefix_cons.1 hmark).1
  exact h (hend.subset (List.mem_cons_self ..))

/-- Every mark that begins in a text is replaced, if its first character
occurs in it once. -/
theorem length_replaceChars {c : Char} {tail : List Char} (hc : c ∉ tail)
    (value a : List Char) :
    (replaceChars (c :: tail) value a).length
        + (tail.length + 1) * countIn (c :: tail) a []
      = a.length + value.length * countIn (c :: tail) a [] := by
  generalize hmark : c :: tail = mark
  fun_induction replaceChars mark value a with
  | case1 => simp [countIn]
  | case2 d cs hfound ih =>
      subst hmark
      obtain ⟨rest, hrest⟩ := List.isPrefixOf_iff_prefix.1 hfound.2
      rw [List.cons_append, List.cons.injEq] at hrest
      obtain ⟨rfl, rfl⟩ := hrest
      have hdrop : (tail ++ rest).drop ((c :: tail).length - 1) = rest :=
        List.drop_left
      rw [hdrop] at ih ⊢
      have hcount : countIn (c :: tail) (c :: (tail ++ rest)) []
          = countIn (c :: tail) rest [] + 1 := by
        rw [countIn, if_pos (by simp), countIn_append,
          countIn_eq_zero hc, Nat.zero_add]
      rw [hcount, List.length_append, List.length_cons, List.length_append,
        Nat.mul_add, Nat.mul_add]
      omega
  | case3 d cs hnot ih =>
      subst hmark
      have hcount : countIn (c :: tail) (d :: cs) []
          = countIn (c :: tail) cs [] := by
        rw [countIn, if_neg, Nat.add_zero]
        rw [List.append_nil]
        exact fun hfront => hnot ⟨nofun, hfront⟩
      rw [hcount, List.length_cons, List.length_cons]
      omega

end Gatewatch.Text
