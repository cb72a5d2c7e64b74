/-
Where a text may be cut without cutting a tag.

The name of a tag goes on until a blank or a closing bracket stops it, and
which of the two it is decides whether there is a tag (`readTag_stop`). So
a text that stands before another one keeps its tags, and leaves those of
the other alone, unless it ends within a name that it has begun
(`begun?`, `pieces_append`). What is begun is what stands behind a bracket
before which nothing is begun (`begun?_eq_some`); in the same way nothing
is begun before a tag (`exists_before_tag`).
-/
import Gatewatch.Proofs.Action.Tags

namespace Gatewatch.Action

-- ====================================================== reading a run

/-- What stops the name of a tag decides whether there is a tag. -/
theorem readTag_stop {run : List Char} (hrun : ∀ c ∈ run, isTagChar c = true)
    {stop : Char} (hstop : isTagChar stop = false) (rest : List Char) :
    readTag (run ++ stop :: rest)
      = if stop = '>' ∧ run ≠ [] then some (String.ofList run, rest)
        else none := by
  split
  case isTrue h =>
    obtain ⟨rfl, hne⟩ := h
    exact readTag_eq_some.2 ⟨by rwa [String.toList_ofList],
      by rwa [String.toList_ofList], by rw [String.toList_ofList]⟩
  case isFalse h =>
    have htake : (run ++ stop :: rest).takeWhile isTagChar = run := by
      rw [List.takeWhile_append_of_pos hrun, List.takeWhile_cons, hstop]
      simp
    have hdrop : (run ++ stop :: rest).dropWhile isTagChar
        = stop :: rest := by
      rw [List.dropWhile_append_of_pos hrun, List.dropWhile_cons, hstop]
      simp
    unfold readTag
    rw [htake, hdrop]
    split
    case h_1 => rfl
    case h_2 hne heq =>
      injection heq with heq _
      exact absurd ⟨heq, hne⟩ h
    case h_3 => rfl

/-- A name that nothing stops is no tag. -/
theorem readTag_run {run : List Char}
    (hrun : ∀ c ∈ run, isTagChar c = true) : readTag run = none := by
  have hdrop : run.dropWhile isTagChar = [] :=
    List.dropWhile_eq_nil_iff.2 hrun
  unfold readTag
  rw [hdrop]
  split
  case h_1 => rfl
  case h_2 heq _ => cases heq
  case h_3 => rfl

/-- A text could be the name of a tag, or something stops the name. -/
theorem run_or_stop (cs : List Char) :
    (∀ c ∈ cs, isTagChar c = true)
      ∨ ∃ run stop rest, cs = run ++ stop :: rest
        ∧ (∀ c ∈ run, isTagChar c = true) ∧ isTagChar stop = false := by
  cases hdrop : cs.dropWhile isTagChar with
  | nil => exact .inl (List.dropWhile_eq_nil_iff.1 hdrop)
  | cons stop rest =>
      refine .inr ⟨cs.takeWhile isTagChar, stop, rest, ?_,
        fun c hc => List.mem_takeWhile_imp hc, ?_⟩
      · rw [← hdrop, List.takeWhile_append_dropWhile]
      · have hhead := List.head?_dropWhile_not isTagChar cs
        rw [hdrop] at hhead
        simpa using hhead

/-- A tag is one piece. -/
theorem pieces_tag {name : String} {cs rest : List Char}
    (h : readTag cs = some (name, rest)) :
    pieces ('<' :: cs) = .tag name :: pieces rest := by
  rw [pieces, if_pos rfl]
  split
  case h_1 hread =>
    rw [h] at hread
    obtain ⟨rfl, rfl⟩ := Prod.mk.inj (Option.some.inj hread)
    rfl
  case h_2 hread => rw [h] at hread; cases hread

/-- A bracket that opens no tag is a piece. -/
theorem pieces_bracket {cs : List Char} (h : readTag cs = none) :
    pieces ('<' :: cs) = .char '<' :: pieces cs := by
  rw [pieces, if_pos rfl]
  split
  case h_1 hread => rw [h] at hread; cases hread
  case h_2 => rfl

/-- All other characters are pieces. -/
theorem pieces_char {c : Char} (hc : c ≠ '<') (cs : List Char) :
    pieces (c :: cs) = .char c :: pieces cs := by
  rw [pieces, if_neg hc]

/-- A name that is stopped by a blank, or by nothing, is no tag, and there
is none in it. -/
theorem pieces_run {run : List Char} (hrun : ∀ c ∈ run, isTagChar c = true)
    {rest : List Char} (hrest : rest = [] ∨ ∃ more, rest = ' ' :: more) :
    pieces (run ++ rest) = run.map .char ++ pieces rest := by
  induction run with
  | nil => rfl
  | cons c run ih =>
      have htail : ∀ c ∈ run, isTagChar c = true := fun c hc =>
        hrun c (List.mem_cons_of_mem _ hc)
      have hnone : readTag (run ++ rest) = none := by
        rcases hrest with rfl | ⟨more, rfl⟩
        · rw [List.append_nil]
          exact readTag_run htail
        · rw [readTag_stop htail (by decide), if_neg (by simp)]
      rw [List.cons_append, List.map_cons, List.cons_append, ← ih htail]
      by_cases hc : c = '<'
      · rw [hc, pieces_bracket hnone]
      · rw [pieces_char hc]

/-- Brackets may stand in the name of a tag. -/
theorem run_bracket {first second : List Char}
    (hfirst : ∀ c ∈ first, isTagChar c = true)
    (hsecond : ∀ c ∈ second, isTagChar c = true) :
    ∀ c ∈ first ++ '<' :: second, isTagChar c = true := by
  intro c hc
  rcases List.mem_append.1 hc with hc | hc
  · exact hfirst c hc
  · rcases List.mem_cons.1 hc with rfl | hc
    · decide
    · exact hsecond c hc

-- =================================================== tags that are begun

/-- The name that a text begins and does not end. -/
def begun? : List Char → Option (List Char)
  | [] => none
  | c :: cs =>
    if c = '<' then
      match _read : readTag cs with
      | some (_, rest) => begun? rest
      | none => if cs.all isTagChar then some cs else begun? cs
    else begun? cs
termination_by cs => cs.length
decreasing_by
  · exact Nat.lt_succ_of_lt (length_readTag_lt _read)
  · simp
  · simp

/-- A tag in front is passed over. -/
theorem begun?_tag {name : String} {cs rest : List Char}
    (h : readTag cs = some (name, rest)) :
    begun? ('<' :: cs) = begun? rest := by
  rw [begun?, if_pos rfl]
  split
  case h_1 hread =>
    rw [h] at hread
    injection hread with hread
    rw [(Prod.mk.inj hread).2]
  case h_2 hread => rw [h] at hread; cases hread

/-- A bracket whose name is stopped is passed over. -/
theorem begun?_bracket {cs : List Char} (h : readTag cs = none)
    (hstop : ¬ ∀ c ∈ cs, isTagChar c = true) :
    begun? ('<' :: cs) = begun? cs := by
  rw [begun?, if_pos rfl]
  split
  case h_1 hread => rw [h] at hread; cases hread
  case h_2 => rw [if_neg (by rwa [List.all_eq_true])]

/-- A bracket whose name nothing stops begins a tag. -/
theorem begun?_run {run : List Char}
    (hrun : ∀ c ∈ run, isTagChar c = true) :
    begun? ('<' :: run) = some run := by
  rw [begun?, if_pos rfl]
  split
  case h_1 hread => rw [readTag_run hrun] at hread; cases hread
  case h_2 => rw [if_pos (List.all_eq_true.2 hrun)]

/-- All other characters are passed over. -/
theorem begun?_char {c : Char} (hc : c ≠ '<') (cs : List Char) :
    begun? (c :: cs) = begun? cs := by
  rw [begun?, if_neg hc]

/-- What stops a name stops it before any text behind it. -/
theorem readTag_append {cs : List Char}
    (hstop : ¬ ∀ c ∈ cs, isTagChar c = true) (after : List Char) :
    readTag (cs ++ after)
      = (readTag cs).map fun tag => (tag.1, tag.2 ++ after) := by
  obtain hrun | ⟨run, stop, rest, rfl, hrun, hchar⟩ := run_or_stop cs
  · exact absurd hrun hstop
  · rw [List.append_assoc, List.cons_append, readTag_stop hrun hchar,
      readTag_stop hrun hchar]
    split <;> rfl

/-- A text that begins no tag keeps its tags, whatever is behind it, and
leaves those behind it alone. -/
theorem pieces_append {before : List Char} (h : begun? before = none)
    (after : List Char) :
    pieces (before ++ after) = pieces before ++ pieces after
      ∧ begun? (before ++ after) = begun? after := by
  fun_induction begun? before with
  | case1 => simp [pieces]
  | case2 cs name rest hread ih =>
      obtain ⟨-, hname, hcs⟩ := readTag_eq_some.1 hread
      have hstop : ¬ ∀ c ∈ cs, isTagChar c = true := fun hall =>
        absurd (hall '>' (by simp [hcs])) (by decide)
      have hlonger : readTag (cs ++ after) = some (name, rest ++ after) := by
        rw [readTag_append hstop, hread]
        rfl
      rw [List.cons_append, pieces_tag hlonger, begun?_tag hlonger,
        pieces_tag hread, (ih h).1, List.cons_append]
      exact ⟨rfl, (ih h).2⟩
  | case3 cs hread hall => cases h
  | case4 cs hread hall ih =>
      have hstop : ¬ ∀ c ∈ cs, isTagChar c = true := by
        rwa [← List.all_eq_true]
      have hlonger : readTag (cs ++ after) = none := by
        rw [readTag_append hstop, hread]
        rfl
      have hstop' : ¬ ∀ c ∈ cs ++ after, isTagChar c = true := fun hall =>
        hstop fun c hc => hall c (List.mem_append_left _ hc)
      rw [List.cons_append, pieces_bracket hlonger,
        begun?_bracket hlonger hstop', pieces_bracket hread, (ih h).1,
        List.cons_append]
      exact ⟨rfl, (ih h).2⟩
  | case5 c cs hc ih =>
      rw [List.cons_append, pieces_char hc, begun?_char hc, pieces_char hc,
        (ih h).1, List.cons_append]
      exact ⟨rfl, (ih h).2⟩

/-- What a text begins stands behind a bracket, and before that it begins
nothing. -/
theorem begun?_eq_some {cs name : List Char} :
    begun? cs = some name ↔ ∃ before, cs = before ++ '<' :: name
      ∧ begun? before = none ∧ ∀ c ∈ name, isTagChar c = true := by
  constructor
  · intro h
    fun_induction begun? cs with
    | case1 => cases h
    | case2 cs tag rest hread ih =>
        obtain ⟨before, rfl, hbefore, hname⟩ := ih h
        obtain ⟨hne, htag, rfl⟩ := readTag_eq_some.1 hread
        have hread' : readTag (tag.toList ++ '>' :: before)
            = some (tag, before) := readTag_eq_some.2 ⟨hne, htag, rfl⟩
        refine ⟨'<' :: (tag.toList ++ '>' :: before), by simp, ?_, hname⟩
        rw [begun?_tag hread', hbefore]
    | case3 cs hread hall =>
        injection h with h
        subst h
        exact ⟨[], rfl, by rw [begun?], List.all_eq_true.1 hall⟩
    | case4 cs hread hall ih =>
        obtain ⟨before, rfl, hbefore, hname⟩ := ih h
        have hstop : ¬ ∀ c ∈ before, isTagChar c = true := fun hrun =>
          hall (List.all_eq_true.2 (run_bracket hrun hname))
        have hnone : readTag before = none := by
          rw [readTag_append hstop, Option.map_eq_none_iff] at hread
          exact hread
        exact ⟨'<' :: before, rfl, by rw [begun?_bracket hnone hstop, hbefore],
          hname⟩
    | case5 c cs hc ih =>
        obtain ⟨before, rfl, hbefore, hname⟩ := ih h
        exact ⟨c :: before, rfl, by rw [begun?_char hc, hbefore], hname⟩
  · rintro ⟨before, rfl, hbefore, hname⟩
    rw [(pieces_append hbefore _).2, begun?_run hname]

/-- A text that ends with a bracket and characters of a name begins a
tag. -/
theorem begun?_ne_none (before : List Char) {run : List Char}
    (hrun : ∀ c ∈ run, isTagChar c = true) :
    begun? (before ++ '<' :: run) ≠ none := by
  cases hbefore : begun? before with
  | none =>
      rw [begun?_eq_some.2 ⟨before, rfl, hbefore, hrun⟩]
      nofun
  | some name =>
      obtain ⟨first, rfl, hfirst, hname⟩ := begun?_eq_some.1 hbefore
      rw [List.append_assoc, List.cons_append,
        begun?_eq_some.2 ⟨first, rfl, hfirst, run_bracket hname hrun⟩]
      nofun

/-- What the end of a text begins, the text begins. -/
theorem begun?_of_append {before cs : List Char}
    (h : begun? (before ++ cs) = none) : begun? cs = none := by
  by_contra hbegun
  obtain ⟨run, hrun⟩ := Option.ne_none_iff_exists'.1 hbegun
  obtain ⟨first, rfl, -, hrun⟩ := begun?_eq_some.1 hrun
  rw [← List.append_assoc] at h
  exact begun?_ne_none _ hrun h

/-- Where a tag stands in a text, nothing is begun before it. -/
theorem exists_before_tag {cs : List Char} {name : String}
    (h : .tag name ∈ pieces cs) :
    ∃ before after, cs = before ++ ((Piece.tag name).text ++ after)
      ∧ begun? before = none ∧ name.toList ≠ []
      ∧ ∀ c ∈ name.toList, isTagChar c = true := by
  fun_induction pieces cs with
  | case1 => cases h
  | case2 cs tag rest hread ih =>
      obtain ⟨hne, htag, rfl⟩ := readTag_eq_some.1 hread
      rcases List.mem_cons.1 h with h | h
      · injection h with h
        subst h
        exact ⟨[], rest, by simp [Piece.text], by rw [begun?], hne, htag⟩
      · obtain ⟨before, after, rfl, hbefore, hname⟩ := ih h
        have hread' : readTag (tag.toList ++ '>' :: before)
            = some (tag, before) := readTag_eq_some.2 ⟨hne, htag, rfl⟩
        refine ⟨'<' :: (tag.toList ++ '>' :: before), after, by simp, ?_, hname⟩
        rw [begun?_tag hread', hbefore]
  | case3 cs hread ih =>
      rcases List.mem_cons.1 h with h | h
      · cases h
      · obtain ⟨before, after, rfl, hbefore, hne, hname⟩ := ih h
        -- else the bracket in front would have opened a longer tag
        have hstop : ¬ ∀ c ∈ before, isTagChar c = true := fun hrun => by
          have hsplit : before ++ ((Piece.tag name).text ++ after)
              = (before ++ '<' :: name.toList) ++ '>' :: after := by
            simp [Piece.text]
          rw [hsplit, readTag_stop (run_bracket hrun hname) (by decide),
            if_pos ⟨rfl, by simp⟩] at hread
          cases hread
        have hnone : readTag before = none := by
          rw [readTag_append hstop, Option.map_eq_none_iff] at hread
          exact hread
        exact ⟨'<' :: before, after, rfl,
          by rw [begun?_bracket hnone hstop, hbefore], hne, hname⟩
  | case4 c cs hc ih =>
      rcases List.mem_cons.1 h with h | h
      · cases h
      · obtain ⟨before, after, rfl, hbefore, hname⟩ := ih h
        exact ⟨c :: before, after, rfl, by rw [begun?_char hc, hbefore], hname⟩

end Gatewatch.Action
