/-
The first IPv4 literal of a text, and when the search passes it over.

# Runs

Digits and dots make up runs; every other character stands between two
of them (`runsOf`). A literal with neither a digit nor a dot on either
side is a whole run, so looking for literals is looking through the runs
(`IsLiteral.runsOf_eq`).

# Rows

The scan takes a run that has the shape of an address together with the
character behind it, and the next run needs a character of its own in
front: of a row of such runs, each one character from the next, it takes
the first, the third and so on, whether or not they are addresses
(`takenRuns`, `freeAfter_eq`). So a literal is passed over exactly when
the runs in a row before it are odd in number (`IsFirst.searchQuad_eq`).
-/
import Gatewatch.Net.Search
import Gatewatch.Proofs.Net.Literal
import Mathlib.Data.List.Induction
import Mathlib.Data.List.TakeWhile

namespace Gatewatch.Net

-- =============================================================== runs

/-- The runs of digits and dots in a text, the empty ones between other
characters included. -/
def runsOf (text : List Char) : List (List Char) :=
  text.splitOnP fun c => !isQuadChar c

/-- Nothing but digits and dots. -/
def IsRun (run : List Char) : Prop := ∀ c ∈ run, isQuadChar c = true

theorem isRun_nil : IsRun [] := nofun

theorem runsOf_run {run : List Char} (h : IsRun run) : runsOf run = [run] :=
  List.splitOnP_eq_singleton fun c hc => by simp [h c hc]

theorem runsOf_append_cons {c : Char} (hc : isQuadChar c = false)
    (a b : List Char) : runsOf (a ++ c :: b) = runsOf a ++ runsOf b :=
  List.splitOnP_append_cons a b (by simp [hc])

theorem runsOf_run_cons {run : List Char} (h : IsRun run) {c : Char}
    (hc : isQuadChar c = false) (rest : List Char) :
    runsOf (run ++ c :: rest) = run :: runsOf rest := by
  rw [runsOf_append_cons hc, runsOf_run h]
  rfl

theorem runsOf_cons {c : Char} (hc : isQuadChar c = false)
    (rest : List Char) : runsOf (c :: rest) = [] :: runsOf rest :=
  runsOf_run_cons isRun_nil hc rest

/-- Of some runs, those that the scan takes; it may take the first one if
`free` is set. -/
def takenRuns : Bool → List (List Char) → List (List Char)
  | _, [] => []
  | free, run :: runs =>
    if free && quadShaped run then run :: takenRuns false runs
    else takenRuns true runs

/-- An empty run is not taken. -/
theorem takenRuns_nil_cons (free : Bool) (runs : List (List Char)) :
    takenRuns free ([] :: runs) = takenRuns true runs := by
  have hshape : quadShaped [] = false := rfl
  simp [takenRuns, hshape]

/-- The scan goes through the runs of a text. -/
theorem quadRuns_eq {fuel : Nat} {text : List Char}
    (h : text.length ≤ fuel) (free : Bool) :
    quadRuns fuel free text = takenRuns free (runsOf text) := by
  have hempty (free : Bool) : takenRuns free (runsOf []) = [] := by
    rw [runsOf_run isRun_nil, takenRuns_nil_cons]
    rfl
  induction fuel generalizing text free with
  | zero =>
      rw [List.length_eq_zero_iff.1 (Nat.le_zero.1 h), hempty]
      rfl
  | succ fuel ih =>
      cases text with
      | nil =>
          rw [hempty]
          rfl
      | cons c cs =>
          rw [List.length_cons] at h
          unfold quadRuns
          by_cases hc : isQuadChar c = true
          · have hcs := List.takeWhile_append_dropWhile
              (p := isQuadChar) (l := cs)
            have hrun : IsRun (c :: cs.takeWhile isQuadChar) := by
              intro x hx
              rcases List.mem_cons.1 hx with rfl | hx
              · exact hc
              · exact List.mem_takeWhile_imp hx
            have hlength :=
              (List.dropWhile_sublist isQuadChar (l := cs)).length_le
            have hstop := List.head?_dropWhile_not isQuadChar cs
            generalize cs.takeWhile isQuadChar = run at *
            generalize cs.dropWhile isQuadChar = rest at *
            rw [if_pos hc, ← hcs, ← List.cons_append]
            dsimp only
            cases rest with
            | nil =>
                have hnothing : quadRuns fuel false [] = [] := by
                  rw [ih (Nat.zero_le _), hempty]
                rw [List.append_nil, runsOf_run hrun, takenRuns,
                  List.drop_nil, hnothing]
                rfl
            | cons x more =>
                have hx : isQuadChar x = false := by simpa using hstop
                rw [List.length_cons] at hlength
                rw [runsOf_run_cons hrun hx, takenRuns, List.drop_one,
                  List.tail_cons, ih (by omega),
                  ih (by rw [List.length_cons]; omega), runsOf_cons hx,
                  takenRuns_nil_cons]
          · rw [if_neg hc, runsOf_cons (by simpa using hc),
              takenRuns_nil_cons, ih (by omega)]

/-- A text is searched through the runs that are taken. -/
theorem searchQuad_eq (text : List Char) :
    searchQuad text = (takenRuns true (runsOf text)).findSome? quad? := by
  unfold searchQuad
  rw [quadRuns_eq (Nat.le_refl _)]

-- =============================================================== rows

/-- Whether the run behind some others may be taken. -/
def freeAfter (free : Bool) (runs : List (List Char)) : Bool :=
  runs.foldl (fun free run => !(free && quadShaped run)) free

theorem takenRuns_append (free : Bool) (a b : List (List Char)) :
    takenRuns free (a ++ b)
      = takenRuns free a ++ takenRuns (freeAfter free a) b := by
  induction a generalizing free with
  | nil => rfl
  | cons run a ih =>
      rw [List.cons_append, takenRuns, takenRuns, freeAfter, List.foldl_cons]
      cases htaken : free && quadShaped run
      · exact ih true
      · exact congrArg (run :: ·) (ih false)

theorem takenRuns_sublist (free : Bool) (runs : List (List Char)) :
    (takenRuns free runs).Sublist runs := by
  induction runs generalizing free with
  | nil => exact List.Sublist.refl _
  | cons run runs ih =>
      unfold takenRuns
      split
      · exact (ih false).cons_cons run
      · exact (ih true).cons run

/-- The number of runs with the shape of an address that stand in a row
before a place of a text, each one character from the next and the last
one character from the place. -/
def rowBefore (front : List Char) : Nat :=
  ((runsOf front).dropLast.reverse.takeWhile quadShaped).length

/-- A run may be taken behind a row of an even number. -/
theorem freeAfter_eq (runs : List (List Char)) :
    freeAfter true runs
      = ((runs.reverse.takeWhile quadShaped).length % 2 == 0) := by
  induction runs using List.reverseRecOn with
  | nil => rfl
  | append_singleton runs run ih =>
      unfold freeAfter at ih ⊢
      rw [List.foldl_append, List.foldl_cons, List.foldl_nil, ih,
        List.reverse_append, List.reverse_singleton,
        List.singleton_append, List.takeWhile_cons]
      cases quadShaped run with
      | false => simp
      | true =>
          rw [if_pos rfl, Bool.and_true, List.length_cons]
          generalize (runs.reverse.takeWhile quadShaped).length = n
          rcases Nat.mod_two_eq_zero_or_one n with h | h
          · have hnext : (n + 1) % 2 = 1 := by omega
            rw [h, hnext]
            rfl
          · have hnext : (n + 1) % 2 = 0 := by omega
            rw [h, hnext]
            rfl

-- =========================================================== literals

/-- A digit in base ten is a digit. -/
theorem isDigit_of_digitValue? {c : Char}
    (h : (digitValue? 10 c).isSome = true) : c.isDigit = true := by
  obtain ⟨d, h⟩ := Option.isSome_iff_exists.1 h
  unfold digitValue? at h
  obtain ⟨hvalue, hlt⟩ := Option.filter_eq_some_iff.1 h
  rw [decide_eq_true_eq] at hlt
  simp only [Bool.and_eq_true, decide_eq_true_eq] at hvalue
  unfold Char.isDigit
  simp only [Bool.and_eq_true, decide_eq_true_eq]
  split at hvalue
  case isTrue hdigit => exact hdigit
  case isFalse =>
    -- the values of letters are not below ten
    split at hvalue
    case isTrue hletter =>
      have hlow : 97 ≤ c.toNat := hletter.1
      injection hvalue with hvalue
      omega
    case isFalse =>
      split at hvalue
      case isTrue hletter =>
        have hlow : 65 ≤ c.toNat := hletter.1
        injection hvalue with hvalue
        omega
      case isFalse => cases hvalue

/-- Digits of one byte of an address. -/
def IsByte (ds : List Char) : Prop :=
  1 ≤ ds.length ∧ ds.length ≤ 3 ∧ ∀ c ∈ ds, c.isDigit = true

/-- A byte is read from one to three digits. -/
theorem readByte_split {cs rest : List Char} {n : Nat}
    (h : readByte cs = some (n, rest)) :
    ∃ ds, cs = ds ++ rest ∧ IsByte ds := by
  have hrest := readByte_rest h
  have hlength : (leadingDigits 10 cs).length
      = (cs.takeWhile fun c => (digitValue? 10 c).isSome).length := by
    have hdrop := congrArg List.length (drop_leadingDigits 10 cs)
    have hsum := congrArg List.length (List.takeWhile_append_dropWhile
      (p := fun c => (digitValue? 10 c).isSome) (l := cs))
    have hle : (leadingDigits 10 cs).length ≤ cs.length := by
      unfold leadingDigits
      exact Nat.le_trans (List.length_filterMap_le _ _)
        (List.takeWhile_sublist _).length_le
    rw [List.length_drop] at hdrop
    rw [List.length_append] at hsum
    omega
  refine ⟨cs.takeWhile fun c => (digitValue? 10 c).isSome, ?_, ?_⟩
  · rw [hrest, List.takeWhile_append_dropWhile]
  · obtain ⟨h, -⟩ := Option.filter_eq_some_iff.1 h
    unfold readNumber at h
    simp only [] at h
    split at h
    case isTrue => cases h
    case isFalse hcount =>
      rw [Bool.or_eq_true, not_or, decide_eq_true_eq,
        List.isEmpty_iff_length_eq_zero, hlength] at hcount
      refine ⟨by omega, by omega, fun c hc => ?_⟩
      exact isDigit_of_digitValue? (List.mem_takeWhile_imp
        (p := fun c => (digitValue? 10 c).isSome) hc)

/-- A text is split where its first dot stands. -/
theorem splitFrom_append {ds : List Char} (hds : '.' ∉ ds)
    (done rest : List Char) :
    Text.splitFrom '.' done (ds ++ '.' :: rest)
      = String.ofList (done.reverse ++ ds) :: Text.splitFrom '.' [] rest := by
  induction ds generalizing done with
  | nil => simp [Text.splitFrom]
  | cons d ds ih =>
      rw [List.mem_cons, not_or] at hds
      rw [List.cons_append, Text.splitFrom, if_neg (Ne.symm hds.1), ih hds.2]
      simp

theorem splitFrom_of_not_mem {ds : List Char} (hds : '.' ∉ ds)
    (done : List Char) :
    Text.splitFrom '.' done ds = [String.ofList (done.reverse ++ ds)] := by
  induction ds generalizing done with
  | nil => simp [Text.splitFrom]
  | cons d ds ih =>
      rw [List.mem_cons, not_or] at hds
      rw [Text.splitFrom, if_neg (Ne.symm hds.1), ih hds.2]
      simp

theorem IsByte.dot_not_mem {ds : List Char} (h : IsByte ds) : '.' ∉ ds :=
  fun hdot => absurd (h.2.2 '.' hdot) (by decide)

/-- A mark is read when it stands in front. -/
theorem readMark_eq_some {mark : Char} {cs rest : List Char}
    (h : readMark mark cs = some rest) : cs = mark :: rest := by
  unfold readMark at h
  split at h
  case h_1 c cs =>
    split at h
    case isTrue hc => rw [hc, Option.some.inj h]
    case isFalse => cases h
  case h_2 => cases h

/-- An address is a run, and has the shape of one. -/
theorem shape_of_quad? {run : List Char} {value : Nat}
    (h : quad? run = some value) : IsRun run ∧ quadShaped run = true := by
  unfold quad? at h
  split at h
  case h_2 => cases h
  case h_1 x hread =>
    unfold readQuad at hread
    obtain ⟨⟨a, cs₁⟩, ha, hread⟩ := Option.bind_eq_some_iff.1 hread
    obtain ⟨cs₂, hdot₁, hread⟩ := Option.bind_eq_some_iff.1 hread
    obtain ⟨⟨b, cs₃⟩, hb, hread⟩ := Option.bind_eq_some_iff.1 hread
    obtain ⟨cs₄, hdot₂, hread⟩ := Option.bind_eq_some_iff.1 hread
    obtain ⟨⟨c, cs₅⟩, hc, hread⟩ := Option.bind_eq_some_iff.1 hread
    obtain ⟨cs₆, hdot₃, hread⟩ := Option.bind_eq_some_iff.1 hread
    obtain ⟨⟨d, cs₇⟩, hd, hread⟩ := Option.bind_eq_some_iff.1 hread
    have hend : cs₇ = [] := (Prod.mk.inj (Option.some.inj hread)).2
    obtain ⟨as, rfl, has⟩ := readByte_split ha
    obtain rfl := readMark_eq_some hdot₁
    obtain ⟨bs, rfl, hbs⟩ := readByte_split hb
    obtain rfl := readMark_eq_some hdot₂
    obtain ⟨cs, rfl, hcs⟩ := readByte_split hc
    obtain rfl := readMark_eq_some hdot₃
    obtain ⟨ds, rfl, hds⟩ := readByte_split hd
    subst hend
    constructor
    · have hdigit : ∀ {ds : List Char}, IsByte ds →
          ∀ c ∈ ds, isQuadChar c = true := by
        intro ds hds c hc
        unfold isQuadChar
        rw [hds.2.2 c hc, Bool.true_or]
      intro c hc
      simp only [List.mem_append, List.mem_cons, List.not_mem_nil,
        or_false] at hc
      rcases hc with hc | rfl | hc | rfl | hc | rfl | hc
      · exact hdigit has c hc
      · rfl
      · exact hdigit hbs c hc
      · rfl
      · exact hdigit hcs c hc
      · rfl
      · exact hdigit hds c hc
    · unfold quadShaped
      rw [splitFrom_append has.dot_not_mem, splitFrom_append hbs.dot_not_mem,
        splitFrom_append hcs.dot_not_mem, List.append_nil,
        splitFrom_of_not_mem hds.dot_not_mem]
      have hbound : ∀ {ds : List Char}, IsByte ds →
          (decide (1 ≤ ds.length) && decide (ds.length ≤ 3)) = true := by
        intro ds hds
        simp [hds.1, hds.2.1]
      simp [hbound has, hbound hbs, hbound hcs, hbound hds]

/-- An IPv4 literal in a text: what stands before it, what it is, what
stands behind it and the address it writes. There is neither a digit nor
a dot on either side. -/
structure IsLiteral (text front run back : List Char) (value : Nat) :
    Prop where
  text_eq : text = front ++ (run ++ back)
  reads : quad? run = some value
  before : ∀ c ∈ front.getLast?, isQuadChar c = false
  behind : ∀ c ∈ back.head?, isQuadChar c = false

/-- The runs behind a run, of which the first is empty. -/
theorem runsOf_of_head {back : List Char}
    (h : ∀ c ∈ back.head?, isQuadChar c = false) :
    runsOf back = [] :: (runsOf back).tail := by
  cases back with
  | nil => rfl
  | cons c rest => rw [runsOf_cons (h c rfl), List.tail_cons]

/-- A literal is one of the runs of its text. -/
theorem IsLiteral.runsOf_eq {text front run back : List Char} {value : Nat}
    (h : IsLiteral text front run back value) :
    runsOf text
      = (runsOf front).dropLast ++ run :: (runsOf back).tail := by
  have hrun := (shape_of_quad? h.reads).1
  have hback : runsOf (run ++ back) = run :: (runsOf back).tail := by
    cases back with
    | nil => rw [List.append_nil, runsOf_run hrun]; rfl
    | cons c rest =>
        have hc := h.behind c rfl
        rw [runsOf_run_cons hrun hc, runsOf_cons hc, List.tail_cons]
  rw [h.text_eq]
  rcases List.eq_nil_or_concat front with hfront | ⟨front, c, hfront⟩
  · rw [hfront, List.nil_append, hback]
    rfl
  · have hc : isQuadChar c = false := h.before c (by rw [hfront]; simp)
    rw [hfront, List.concat_eq_append, List.append_assoc,
      List.singleton_append, runsOf_append_cons hc, runsOf_append_cons hc,
      hback, runsOf_run isRun_nil, List.dropLast_concat]

/-- A run stands between two places of its text. -/
theorem exists_of_mem_runsOf {text run : List Char} (h : run ∈ runsOf text) :
    ∃ front back, text = front ++ (run ++ back)
      ∧ (∀ c ∈ front.getLast?, isQuadChar c = false)
      ∧ ∀ c ∈ back.head?, isQuadChar c = false := by
  induction hlength : text.length using Nat.strongRecOn generalizing text with
  | ind n ih =>
      have hsplit := List.takeWhile_append_dropWhile
        (p := isQuadChar) (l := text)
      have hrun : IsRun (text.takeWhile isQuadChar) :=
        fun c hc => List.mem_takeWhile_imp hc
      have hstop := List.head?_dropWhile_not isQuadChar text
      generalize text.takeWhile isQuadChar = first at *
      generalize text.dropWhile isQuadChar = rest at *
      cases rest with
      | nil =>
          rw [← hsplit, List.append_nil, runsOf_run hrun,
            List.mem_singleton] at h
          exact ⟨[], [], by rw [h, ← hsplit]; rfl, nofun, nofun⟩
      | cons c rest =>
          have hc : isQuadChar c = false := by simpa using hstop
          rw [← hsplit, runsOf_run_cons hrun hc, List.mem_cons] at h
          rcases h with rfl | h
          · refine ⟨[], c :: rest, hsplit.symm, nofun, fun x hx => ?_⟩
            rwa [← Option.some.inj hx]
          · have hshort : rest.length < n := by
              rw [← hlength, ← hsplit, List.length_append, List.length_cons]
              omega
            obtain ⟨front, back, hrest, hbefore, hbehind⟩ :=
              ih _ hshort h rfl
            refine ⟨first ++ c :: front, back, ?_, fun x hx => ?_, hbehind⟩
            · rw [← hsplit, hrest, List.append_assoc, List.cons_append]
            · cases front with
              | nil =>
                  rw [List.getLast?_append] at hx
                  simp only [List.getLast?_singleton, Option.some_or,
                    Option.mem_some_iff] at hx
                  rwa [← hx]
              | cons y front =>
                  refine hbefore x ?_
                  rw [List.getLast?_append, List.getLast?_cons_cons] at hx
                  rw [List.getLast?_eq_some_getLast
                    (List.cons_ne_nil y front)] at hx ⊢
                  exact hx

/-- The first literal of a text: no other one begins earlier. -/
structure IsFirst (text front run back : List Char) (value : Nat) : Prop
    extends IsLiteral text front run back value where
  first : ∀ {front' run' back' value'},
    IsLiteral text front' run' back' value' → front.length ≤ front'.length

/-- A literal is all that may belong to a run from where it begins. -/
theorem IsLiteral.run_eq {text front run back : List Char} {value : Nat}
    (h : IsLiteral text front run back value) :
    run = (text.drop front.length).takeWhile isQuadChar := by
  have hrun := (shape_of_quad? h.reads).1
  have hstop : back.takeWhile isQuadChar = [] := by
    cases back with
    | nil => rfl
    | cons c rest =>
        rw [List.takeWhile_cons_of_neg (by simp [h.behind c rfl])]
  rw [h.text_eq, List.drop_left, List.takeWhile_append_of_pos hrun, hstop,
    List.append_nil]

/-- A literal is the first one if what could begin earlier is none. -/
theorem IsLiteral.isFirst {text front run back : List Char} {value : Nat}
    (h : IsLiteral text front run back value)
    (hnone : ∀ k < front.length,
      quad? ((text.drop k).takeWhile isQuadChar) = none) :
    IsFirst text front run back value := by
  refine ⟨h, fun {front' run' back' value'} h' => ?_⟩
  by_contra hlt
  have hread := h'.reads
  rw [h'.run_eq, hnone front'.length (by omega)] at hread
  cases hread

/-- No run before the first literal is one. -/
theorem IsFirst.quad?_eq_none {text front run back : List Char} {value : Nat}
    (h : IsFirst text front run back value) :
    ∀ r ∈ (runsOf front).dropLast, quad? r = none := by
  intro r hr
  rcases List.eq_nil_or_concat front with hfront | ⟨front, c, hfront⟩
  · rw [hfront] at hr
    cases hr
  · have hc : isQuadChar c = false := h.before c (by rw [hfront]; simp)
    rw [hfront, List.concat_eq_append, runsOf_append_cons hc,
      runsOf_run isRun_nil, List.dropLast_concat] at hr
    obtain ⟨f, b, hsplit, hbefore, hbehind⟩ := exists_of_mem_runsOf hr
    cases hread : quad? r with
    | none => rfl
    | some value' =>
        have hearlier : IsLiteral text f r (b ++ c :: (run ++ back))
            value' := by
          refine ⟨?_, hread, hbefore, fun x hx => ?_⟩
          · rw [h.text_eq, hfront, hsplit]
            simp
          · cases b with
            | nil => rwa [← Option.some.inj hx]
            | cons y b => exact hbehind x hx
        have hle := h.first hearlier
        rw [hfront, hsplit] at hle
        simp only [List.concat_eq_append, List.length_append,
          List.length_singleton] at hle
        omega

/-- The first literal is found behind a row of an even number. Behind one
of an odd number it is passed over, and what stands behind it is searched
as a text of its own. -/
theorem IsFirst.searchQuad_eq {text front run back : List Char} {value : Nat}
    (h : IsFirst text front run back value) :
    searchQuad text
      = if rowBefore front % 2 = 0 then some value else searchQuad back := by
  have hshape := (shape_of_quad? h.reads).2
  have hnone : (takenRuns true (runsOf front).dropLast).findSome? quad?
      = none :=
    List.findSome?_eq_none_iff.2 fun r hr =>
      h.quad?_eq_none r ((takenRuns_sublist _ _).subset hr)
  rw [Net.searchQuad_eq, Net.searchQuad_eq, h.runsOf_eq, takenRuns_append,
    List.findSome?_append, hnone, Option.none_or, freeAfter_eq, takenRuns,
    hshape, Bool.and_true]
  unfold rowBefore
  split
  case isTrue hfree =>
    rw [if_pos (beq_iff_eq.1 hfree), List.findSome?_cons, h.reads]
  case isFalse hfree =>
    rw [if_neg (by simpa using hfree), runsOf_of_head h.behind,
      takenRuns_nil_cons, List.tail_cons]

/-- Different numbers are different hosts. -/
theorem ofHost_v4_inj {v w : Nat} (hv : v < Word.size 32)
    (hw : w < Word.size 32) :
    Address.ofHost .v4 v = Address.ofHost .v4 w ↔ v = w := by
  have hbase : ∀ n < Word.size 32, ∀ b, Address.ofHost .v4 n = .block b →
      b.base = n := by
    intro n hn b hb
    unfold Address.ofHost Block.host? Block.written? Block.covering? at hb
    rw [dif_pos ⟨Nat.le_refl _, hn, nofun⟩] at hb
    injection hb with hb
    rw [← hb]
    show n - n % Word.size (32 - 32) = n
    rw [Nat.sub_self, Word.size_zero, Nat.mod_one, Nat.sub_zero]
  constructor
  · intro heq
    have hwidth : w < Word.size Family.v4.width := hw
    obtain ⟨b, hb⟩ := isBlock_ofHost hwidth
    rw [← hbase v hv b (heq.trans hb), hbase w hw b hb]
  · exact congrArg _

/-- The address of a literal that was passed over comes again: the text
behind it is searched to the same address or, when that holds no IPv4
address that is found, the first IPv6 address of the whole text is the
same one, mapped. -/
def ComesAgain (text back : List Char) (value : Nat) : Prop :=
  match searchQuad back with
  | some v => v = value
  | none => (searchSix text).map (Address.ofHost .v6)
      = some (Address.ofHost .v4 value)

/-- The search answers the first IPv4 literal of a text exactly when the
runs of digits and dots that stand in a row before it, shaped like
addresses and each one character from the next, are even in number, or
when its address comes again. -/
theorem search_answers_first_iff {text : String} {front run back : List Char}
    {value : Nat} (h : IsFirst text.toList front run back value) :
    search text = some (.ofHost .v4 value)
      ↔ rowBefore front % 2 = 0 ∨ ComesAgain text.toList back value := by
  have hvalue := quad?_lt h.reads
  unfold search ComesAgain
  rw [h.searchQuad_eq]
  by_cases hrow : rowBefore front % 2 = 0
  · simp [hrow]
  · simp only [hrow, if_false, false_or]
    cases hback : searchQuad back with
    | none => rfl
    | some v =>
        obtain ⟨r, -, hr⟩ := List.exists_of_findSome?_eq_some hback
        simp only [Option.some.injEq]
        exact ofHost_v4_inj (quad?_lt hr) hvalue

/-- What is shaped like an address before a literal is no run of its row
when two characters stand between them. -/
theorem literal_behind_comma :
    let front := "1.2.3.400, ".toList
    let run := "192.0.2.7".toList
    IsFirst (front ++ (run ++ [])) front run [] 3221225991
      ∧ search "1.2.3.400, 192.0.2.7" = some (.ofHost .v4 3221225991) := by
  intro front run
  have hblank : front.getLast? = some ' ' := by decide
  have hliteral : IsLiteral (front ++ (run ++ [])) front run [] 3221225991 :=
    ⟨rfl, by decide +kernel, fun c hc => by
      obtain rfl := Option.some.inj (hblank.symm.trans hc)
      rfl, nofun⟩
  have hfirst : IsFirst "1.2.3.400, 192.0.2.7".toList front run []
      3221225991 := hliteral.isFirst (by decide +kernel)
  exact ⟨hfirst,
    (search_answers_first_iff hfirst).2 (.inl (by decide +kernel))⟩

/-- The run before the literal is no address, but the scan takes it with
the blank behind it. -/
theorem literal_is_passed_over :
    IsLiteral "1.2.3.400 192.0.2.7".toList "1.2.3.400 ".toList
        "192.0.2.7".toList [] 3221225991
      ∧ search "1.2.3.400 192.0.2.7" = none := by
  have hblank : "1.2.3.400 ".toList.getLast? = some ' ' := by decide
  refine ⟨⟨by decide, by decide, fun c hc => ?_, nofun⟩, by decide +kernel⟩
  obtain rfl := Option.some.inj (hblank.symm.trans hc)
  rfl

end Gatewatch.Net
