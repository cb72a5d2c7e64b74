/-
Literals read back: the usual form of an address is read as that address,
whole and in its family.

# Digits

A number is read up to the first character that is no digit of its base
(`readNumber_toDigits`). Behind the numbers of a literal stands a mark or
nothing, so each is taken whole. What is left at most is the dot between
the numbers of the first family, and a text of the second family, which
has none, is never taken for one of the first (`readQuad_eq_none`): its
first mark is a colon.

# The gap

The groups of the second family come to one text or two, around the
longest run of zeros (`longestGap`). The run is where it is said to be
(`Zeros`), so what the reader fills the gap with is what was left out
(`groups_around_gap`); that the run is the longest one matters only for
the usual form.
-/
import Gatewatch.Net.Literal
import Gatewatch.Proofs.Net.Token
import Mathlib.Algebra.Group.Nat.Defs

namespace Gatewatch.Net

-- ============================================================= digits

/-- A digit has the value that it is printed for. -/
theorem digitValue?_digitChar {base d : Nat} (hbase : base ≤ 16)
    (hd : d < base) : digitValue? base d.digitChar = some d := by
  have hall : ∀ base ≤ 16, ∀ d < base,
      digitValue? base (Nat.digitChar d) = some d := by decide
  exact hall base hbase d hd

/-- The digits of a number: they make it up, and it starts with a zero
only when it is zero. -/
theorem exists_digits {base : Nat} (hlow : 1 < base) (n : Nat) :
    ∃ ds, Nat.toDigits base n = ds.map Nat.digitChar
      ∧ (∀ d ∈ ds, d < base) ∧ ofDigits base ds = n
      ∧ (ds.head? = some 0 → n = 0) ∧ ds ≠ [] := by
  induction n using Nat.strongRecOn with
  | ind n ih =>
      by_cases hn : n < base
      · refine ⟨[n], Nat.toDigits_of_lt_base hn, ?_, ?_, ?_, ?_⟩
        · exact fun d hd => List.mem_singleton.1 hd ▸ hn
        · show base * 0 + n = n
          rw [Nat.mul_zero, Nat.zero_add]
        · exact fun h => Option.some.inj h
        · exact List.cons_ne_nil _ _
      · have hle := Nat.le_of_not_lt hn
        obtain ⟨ds, hds, hlt, hvalue, hzero, hne⟩ :=
          ih (n / base) (Nat.div_lt_self (by omega) hlow)
        refine ⟨ds ++ [n % base], ?_, ?_, ?_, ?_, ?_⟩
        · rw [Nat.toDigits_of_base_le hlow hle, hds, List.map_append,
            List.map_singleton]
        · intro d hd
          rcases List.mem_append.1 hd with hd | hd
          · exact hlt d hd
          · rw [List.mem_singleton.1 hd]
            exact Nat.mod_lt n (by omega)
        · have hsplit : ofDigits base (ds ++ [n % base])
              = base * ofDigits base ds + n % base := by
            unfold ofDigits
            rw [List.foldl_append]
            rfl
          rw [hsplit, hvalue, Nat.div_add_mod]
        · intro h
          rw [List.head?_append, List.head?_eq_some_head hne, Option.some_or,
            ← List.head?_eq_some_head hne] at h
          have := Nat.div_eq_zero_iff.1 (hzero h)
          omega
        · exact List.append_ne_nil_of_left_ne_nil hne _

/-- No digit of a base stands in front. -/
def NoDigit (base : Nat) (rest : List Char) : Prop :=
  ∀ c ∈ rest.head?, digitValue? base c = none

/-- Digits are taken up to the first character that is none. -/
theorem leadingDigits_append {base : Nat} {ds : List Nat}
    {rest : List Char} (hbase : base ≤ 16) (hds : ∀ d ∈ ds, d < base)
    (hrest : NoDigit base rest) :
    leadingDigits base (ds.map Nat.digitChar ++ rest) = ds := by
  induction ds with
  | nil =>
      cases rest with
      | nil => rfl
      | cons c rest =>
          have hc := hrest c rfl
          unfold leadingDigits
          rw [List.map_nil, List.nil_append,
            List.takeWhile_cons_of_neg (by rw [hc]; decide)]
          rfl
  | cons d ds ih =>
      have hd := digitValue?_digitChar hbase (hds d List.mem_cons_self)
      have hmore := ih fun x hx => hds x (List.mem_cons_of_mem d hx)
      unfold leadingDigits at hmore ⊢
      rw [List.map_cons, List.cons_append,
        List.takeWhile_cons_of_pos (by rw [hd]; rfl),
        List.filterMap_cons_some hd, hmore]

/-- A number is read from its digits, and what is behind it is left. -/
theorem readNumber_toDigits {base count n : Nat} (zeros : Bool)
    {rest : List Char} (hlow : 1 < base) (hhigh : base ≤ 16)
    (hcount : 0 < count) (hn : n < base ^ count)
    (hrest : NoDigit base rest) :
    readNumber base count zeros (Nat.toDigits base n ++ rest)
      = some (n, rest) := by
  have hlength := (Nat.length_toDigits_le_iff hlow hcount).2 hn
  obtain ⟨ds, hds, hlt, hvalue, hzero, hne⟩ := exists_digits hlow n
  rw [hds, List.length_map] at hlength
  have hshort : (ds.isEmpty || decide (count < ds.length)) = false := by
    rw [List.isEmpty_eq_false_iff.2 hne, Bool.false_or]
    exact decide_eq_false (Nat.not_lt.2 hlength)
  have hlead : (!zeros && decide (1 < ds.length) && ds.head? == some 0)
      = false := by
    by_cases hhead : ds.head? = some 0
    · -- the number is zero, and has one digit
      have hone : ds.length = 1 := by
        rw [hzero hhead, Nat.toDigits_zero] at hds
        have := congrArg List.length hds
        rw [List.length_map] at this
        exact this.symm
      rw [hone]
      simp
    · rw [beq_eq_false_iff_ne.2 hhead, Bool.and_false]
  have hdrop : (ds.map Nat.digitChar ++ rest).drop ds.length = rest :=
    List.drop_left' (List.length_map _)
  unfold readNumber
  simp only []
  rw [hds, leadingDigits_append hhigh hlt hrest, hshort, hlead, hvalue, hdrop]
  rfl

-- ================================================================ quads

theorem noDigit_nil (base : Nat) : NoDigit base [] := nofun

theorem noDigit_dot (rest : List Char) : NoDigit 10 ('.' :: rest) := by
  intro c hc
  injection hc with hc
  rw [← hc]
  decide

/-- A byte is read from its digits. -/
theorem readByte_toDigits {n : Nat} {rest : List Char} (hn : n < 256)
    (hrest : NoDigit 10 rest) :
    readByte (Nat.toDigits 10 n ++ rest) = some (n, rest) := by
  unfold readByte
  rw [readNumber_toDigits false (by decide) (by decide) (by decide)
    (Nat.lt_trans hn (by decide)) hrest, Option.filter_some,
    if_pos (decide_eq_true hn)]

/-- Four bytes are read one by one. -/
theorem readQuad_toDigits {a b c d : Nat} (ha : a < 256) (hb : b < 256)
    (hc : c < 256) (hd : d < 256) :
    readQuad (Nat.toDigits 10 a ++ '.' :: (Nat.toDigits 10 b
        ++ '.' :: (Nat.toDigits 10 c ++ '.' :: Nat.toDigits 10 d)))
      = some (((a * 256 + b) * 256 + c) * 256 + d, []) := by
  have hlast : readByte (Nat.toDigits 10 d) = some (d, []) := by
    have h := readByte_toDigits hd (noDigit_nil 10)
    rwa [List.append_nil] at h
  unfold readQuad
  rw [readByte_toDigits ha (noDigit_dot _)]
  simp only [readMark, if_true, Option.bind_eq_bind, Option.bind_some,
    readByte_toDigits hb (noDigit_dot _), readByte_toDigits hc (noDigit_dot _),
    hlast]
  rfl

/-- The characters of the usual form of an IPv4 address. -/
theorem toList_quadText (value : Nat) :
    (quadText value).toList
      = Nat.toDigits 10 (value / 16777216 % 256) ++ '.'
        :: (Nat.toDigits 10 (value / 65536 % 256) ++ '.'
        :: (Nat.toDigits 10 (value / 256 % 256) ++ '.'
        :: Nat.toDigits 10 (value / 1 % 256))) := by
  have htext (n : Nat) : (toString n).toList = Nat.toDigits 10 n :=
    Nat.toList_repr
  unfold quadText
  simp only [String.toList_append, htext, List.append_assoc]
  rfl

/-- An IPv4 address is read from its usual form. -/
theorem quad?_quadText {value : Nat} (h : value < Word.size 32) :
    quad? (quadText value).toList = some value := by
  have hbyte (n : Nat) : n % 256 < 256 := Nat.mod_lt n (by decide)
  have hvalue : ((value / 16777216 % 256 * 256 + value / 65536 % 256) * 256
      + value / 256 % 256) * 256 + value / 1 % 256 = value := by
    change value < 4294967296 at h
    omega
  unfold quad?
  rw [toList_quadText, readQuad_toDigits (hbyte _) (hbyte _) (hbyte _)
    (hbyte _), hvalue]

/-- What is behind the digits in front. -/
theorem drop_leadingDigits (base : Nat) (cs : List Char) :
    cs.drop (leadingDigits base cs).length
      = cs.dropWhile fun c => (digitValue? base c).isSome := by
  induction cs with
  | nil => rfl
  | cons c cs ih =>
      unfold leadingDigits at ih ⊢
      cases hc : digitValue? base c with
      | none =>
          rw [List.takeWhile_cons_of_neg (by rw [hc]; nofun),
            List.dropWhile_cons_of_neg (by rw [hc]; nofun)]
          rfl
      | some d =>
          rw [List.takeWhile_cons_of_pos (by rw [hc]; rfl),
            List.dropWhile_cons_of_pos (by rw [hc]; rfl),
            List.filterMap_cons_some hc, List.length_cons,
            List.drop_succ_cons, ih]

/-- A number leaves what is behind its digits. -/
theorem readByte_rest {cs rest : List Char} {n : Nat}
    (h : readByte cs = some (n, rest)) :
    rest = cs.dropWhile fun c => (digitValue? 10 c).isSome := by
  obtain ⟨h, -⟩ := Option.filter_eq_some_iff.1 h
  unfold readNumber at h
  simp only [] at h
  split at h
  case isTrue => cases h
  case isFalse =>
    split at h
    case isTrue => cases h
    case isFalse =>
      injection h with h
      injection h with _ hrest
      rw [← hrest, drop_leadingDigits]

/-- What may stand behind the groups that a reader takes: nothing, or a
colon. -/
def AtColon (rest : List Char) : Prop := ∀ c ∈ rest.head?, c = ':'

theorem AtColon.noDigit {base : Nat} {rest : List Char} (h : AtColon rest) :
    NoDigit base rest := by
  intro c hc
  rw [h c hc]
  rfl

/-- A text without a dot before its first colon is no IPv4 address. -/
theorem readQuad_eq_none {ds rest : List Char} (hds : '.' ∉ ds)
    (hrest : AtColon rest) : readQuad (ds ++ rest) = none := by
  have hdot : ∀ after, (ds ++ rest).dropWhile
      (fun c => (digitValue? 10 c).isSome) ≠ '.' :: after := by
    intro after
    induction ds with
    | nil =>
        cases rest with
        | nil => nofun
        | cons c rest =>
            rw [List.nil_append, hrest c rfl, List.dropWhile_cons_of_neg
              (by decide)]
            nofun
    | cons d ds ih =>
        rw [List.cons_append, List.dropWhile_cons]
        split
        · exact ih fun h => hds (List.mem_cons_of_mem d h)
        · intro h
          injection h with h
          exact hds (h ▸ List.mem_cons_self)
  unfold readQuad
  cases hread : readByte (ds ++ rest) with
  | none => rfl
  | some x =>
      obtain ⟨n, after⟩ := x
      have hafter := readByte_rest hread
      have hmark : readMark '.' after = none := by
        unfold readMark
        split
        · rename_i c cs
          rw [if_neg]
          rintro rfl
          exact hdot cs hafter.symm
        · rfl
      simp only [Option.bind_eq_bind, Option.bind_some, hmark]
      rfl

-- ================================================================ groups

/-- The digits of a group. -/
theorem dot_not_mem_toDigits (n : Nat) : '.' ∉ Nat.toDigits 16 n := by
  obtain ⟨ds, hds, hlt, -⟩ := exists_digits (by decide : 1 < 16) n
  have hall : ∀ d < 16, Nat.digitChar d ≠ '.' := by decide
  intro hmem
  rw [hds] at hmem
  obtain ⟨d, hd, hc⟩ := List.mem_map.1 hmem
  exact hall d (hlt d hd) hc

/-- Groups, each with a colon in front. -/
def groupsTail (groups : List Nat) : List Char :=
  groups.flatMap fun g => ':' :: Nat.toDigits 16 g

/-- The characters of some groups. -/
theorem toList_joinGroups (g : Nat) (groups : List Nat) :
    (joinGroups (g :: groups)).toList
      = Nat.toDigits 16 g ++ groupsTail groups := by
  induction groups generalizing g with
  | nil => simp [joinGroups, groupsTail, groupText]
  | cons x groups ih =>
      have hnext := ih x
      unfold joinGroups at hnext ⊢
      rw [List.map_cons, List.map_cons, String.intercalate_cons_cons,
        ← List.map_cons, String.toList_append, String.toList_append, hnext]
      unfold groupText groupsTail
      rw [String.toList_ofList, List.flatMap_cons]
      simp

/-- Groups end at their end or at a gap. -/
def AtGap (rest : List Char) : Prop :=
  rest = [] ∨ ∃ after, rest = ':' :: ':' :: after

theorem AtGap.atColon {rest : List Char} (h : AtGap rest) :
    AtColon rest := by
  rcases h with rfl | ⟨after, rfl⟩
  · nofun
  · exact fun c hc => (Option.some.inj hc).symm

/-- Behind a group stands a colon or nothing. -/
theorem atColon_groupsTail {groups : List Nat} {rest : List Char}
    (h : AtGap rest) : AtColon (groupsTail groups ++ rest) := by
  cases groups with
  | nil => exact h.atColon
  | cons g groups => exact fun c hc => (Option.some.inj hc).symm

/-- No number stands before a colon or the end. -/
theorem readNumber_of_atColon {base count : Nat} {zeros : Bool}
    {rest : List Char} (h : AtColon rest) :
    readNumber base count zeros rest = none := by
  have hnone : leadingDigits base rest = [] := by
    cases rest with
    | nil => rfl
    | cons c rest =>
        unfold leadingDigits
        rw [List.takeWhile_cons_of_neg (by rw [h.noDigit c rfl]; nofun)]
        rfl
  unfold readNumber
  simp only [hnone]
  rfl

/-- Reading stops at a gap, and before it. -/
theorem readGroups_atGap (room : Nat) (first : Bool) {rest : List Char}
    (h : AtGap rest) : readGroups room first rest = ([], false, rest) := by
  have hstop : ∀ after, AtColon after →
      (if room - 1 = 0 then none else readQuad after) = none := by
    intro after hafter
    have hquad : readQuad ([] ++ after) = none :=
      readQuad_eq_none List.not_mem_nil hafter
    rw [List.nil_append] at hquad
    rw [hquad, ite_self]
  cases room with
  | zero => rfl
  | succ room =>
      rw [Nat.add_sub_cancel] at hstop
      unfold readGroups
      cases first with
      | true =>
          simp only [if_true, hstop rest h.atColon,
            readNumber_of_atColon h.atColon]
      | false =>
          rcases h with rfl | ⟨after, rfl⟩
          · rfl
          · have hcolon : AtColon (':' :: after) :=
              fun c hc => (Option.some.inj hc).symm
            simp only [readMark, if_true, hstop _ hcolon,
              readNumber_of_atColon hcolon, Bool.false_eq_true, if_false]

/-- One group is read, and those behind it. -/
theorem readGroups_step {room g : Nat} {first : Bool} {cs more : List Char}
    {groups : List Nat} {rest : List Char} (hg : g < 65536)
    (hmore : AtColon more)
    (hcs : (if first then some cs else readMark ':' cs)
      = some (Nat.toDigits 16 g ++ more))
    (hread : readGroups room false more = (groups, false, rest)) :
    readGroups (room + 1) first cs = (g :: groups, false, rest) := by
  have hquad : readQuad (Nat.toDigits 16 g ++ more) = none :=
    readQuad_eq_none (dot_not_mem_toDigits g) hmore
  have hnumber : readNumber 16 4 true (Nat.toDigits 16 g ++ more)
      = some (g, more) :=
    readNumber_toDigits true (by decide) (by decide) (by decide) hg
      hmore.noDigit
  unfold readGroups
  simp only [hcs, hquad, ite_self, hnumber, hread]

/-- All groups are read behind a first one. -/
theorem readGroups_tail {room : Nat} {groups : List Nat} {rest : List Char}
    (hroom : groups.length ≤ room) (hall : ∀ g ∈ groups, g < 65536)
    (hrest : AtGap rest) :
    readGroups room false (groupsTail groups ++ rest)
      = (groups, false, rest) := by
  induction groups generalizing room with
  | nil => exact readGroups_atGap room false hrest
  | cons g groups ih =>
      cases room with
      | zero => cases hroom
      | succ room =>
          refine readGroups_step (hall g List.mem_cons_self)
            (atColon_groupsTail hrest) ?_
            (ih (Nat.le_of_succ_le_succ hroom)
              fun x hx => hall x (List.mem_cons_of_mem g hx))
          unfold groupsTail
          rw [List.flatMap_cons, List.append_assoc]
          rfl

/-- All groups are read. -/
theorem readGroups_joinGroups {room : Nat} {groups : List Nat}
    {rest : List Char} (hroom : groups.length ≤ room)
    (hall : ∀ g ∈ groups, g < 65536) (hrest : AtGap rest) :
    readGroups room true ((joinGroups groups).toList ++ rest)
      = (groups, false, rest) := by
  cases groups with
  | nil => exact readGroups_atGap room true hrest
  | cons g groups =>
      cases room with
      | zero => cases hroom
      | succ room =>
          refine readGroups_step (hall g List.mem_cons_self)
            (atColon_groupsTail hrest) ?_
            (readGroups_tail (Nat.le_of_succ_le_succ hroom)
              (fun x hx => hall x (List.mem_cons_of_mem g hx)) hrest)
          rw [if_pos rfl, toList_joinGroups, List.append_assoc]

-- =================================================================== gap

/-- The groups of a run are zero. -/
def Gap.Zeros (gap : Gap) (groups : List Nat) : Prop :=
  ∀ i, gap.start ≤ i → i < gap.start + gap.count → groups[i]? = some 0

/-- The run that is found is one, as are those that were found before. -/
theorem zeros_longestGap {groups rest : List Nat} {i : Nat}
    {current best : Gap} (hrest : groups.drop i = rest)
    (hends : current.count = 0 ∨ current.start + current.count = i)
    (hcurrent : current.Zeros groups) (hbest : best.Zeros groups) :
    (longestGap i current best rest).Zeros groups := by
  induction rest generalizing i current best with
  | nil => exact hbest
  | cons g rest ih =>
      have hhere : groups[i]? = some g := by
        rw [← List.head?_drop, hrest]
        rfl
      have hnext : groups.drop (i + 1) = rest := by
        rw [← List.drop_drop, hrest]
        rfl
      unfold longestGap
      split
      case isFalse =>
        exact ih hnext (.inl rfl) (fun j hlow hhigh => by
          exact absurd hlow (Nat.not_le.2 hhigh)) hbest
      case isTrue hzero =>
        -- the run that ends here, one group longer
        have hrun : ∀ run : Gap, run = (if current.count = 0 then ⟨i, 1⟩
            else ⟨current.start, current.count + 1⟩) →
            run.start + run.count = i + 1 ∧ run.Zeros groups := by
          rintro run rfl
          split
          case isTrue hcount =>
            refine ⟨rfl, fun j hlow hhigh => ?_⟩
            have hj : j = i := by
              dsimp only at hlow hhigh
              omega
            rw [hj, hhere, hzero]
          case isFalse hcount =>
            have hi := hends.resolve_left hcount
            refine ⟨?_, fun j hlow hhigh => ?_⟩
            · dsimp only
              omega
            · dsimp only at hlow hhigh
              by_cases hj : j = i
              · rw [hj, hhere, hzero]
              · exact hcurrent j hlow (by omega)
        obtain ⟨hruns, hzeros⟩ := hrun _ rfl
        generalize (if current.count = 0 then (⟨i, 1⟩ : Gap)
          else ⟨current.start, current.count + 1⟩) = run at hruns hzeros ⊢
        refine ih hnext (.inr hruns) hzeros ?_
        split
        · exact hzeros
        · exact hbest

/-- A run of zeros is all that is between what is before and behind it. -/
theorem groups_around_gap {groups : List Nat} {gap : Gap}
    (hzeros : gap.Zeros groups) (hcount : 0 < gap.count) :
    gap.start + gap.count ≤ groups.length
      ∧ groups = groups.take gap.start ++ List.replicate gap.count 0
        ++ groups.drop (gap.start + gap.count) := by
  have hlast := hzeros (gap.start + gap.count - 1) (by omega) (by omega)
  have hlt := (List.getElem?_eq_some_iff.1 hlast).1
  refine ⟨by omega, ?_⟩
  have hmiddle : (groups.drop gap.start).take gap.count
      = List.replicate gap.count 0 := by
    refine List.eq_replicate_iff.2 ⟨?_, fun g hg => ?_⟩
    · rw [List.length_take, List.length_drop]
      omega
    · obtain ⟨j, hj⟩ := List.mem_iff_getElem?.1 hg
      have hjlt : j < gap.count := Nat.lt_of_not_le fun hge => by
        rw [List.getElem?_take_eq_none hge] at hj
        cases hj
      rw [List.getElem?_take_of_lt hjlt, List.getElem?_drop,
        hzeros _ (by omega) (by omega)] at hj
      exact (Option.some.inj hj).symm
  rw [← hmiddle, ← List.drop_drop, List.append_assoc, List.take_append_drop,
    List.take_append_drop]

-- =================================================================== six

/-- The groups of an address, one by one. -/
theorem groupsOf_eq (value : Nat) :
    groupsOf value
      = [value / 2 ^ 112 % 65536, value / 2 ^ 96 % 65536,
        value / 2 ^ 80 % 65536, value / 2 ^ 64 % 65536,
        value / 2 ^ 48 % 65536, value / 2 ^ 32 % 65536,
        value / 2 ^ 16 % 65536, value / 2 ^ 0 % 65536] := rfl

/-- The groups of an address make it up. -/
theorem ofGroups_groupsOf {value : Nat} (h : value < Word.size 128) :
    ofGroups (groupsOf value) = value := by
  change value < 2 ^ 128 at h
  rw [groupsOf_eq]
  simp only [ofGroups, ofDigits, List.foldl_cons, List.foldl_nil]
  omega

theorem groupsOf_lt (value : Nat) : ∀ g ∈ groupsOf value, g < 65536 := by
  intro g hg
  obtain ⟨i, -, rfl⟩ := List.mem_map.1 hg
  exact Nat.mod_lt _ (by decide)

/-- An IPv6 address is read from its usual form. -/
theorem readSix_groupsText {value : Nat} (h : value < Word.size 128) :
    readSix (groupsText value).toList = some (value, []) := by
  have hvalue := ofGroups_groupsOf h
  have hall := groupsOf_lt value
  have hlength : (groupsOf value).length = 8 := rfl
  unfold groupsText
  generalize groupsOf value = groups at hvalue hall hlength ⊢
  have hzeros : (longestGap 0 ⟨0, 0⟩ ⟨0, 0⟩ groups).Zeros groups :=
    zeros_longestGap rfl (.inl rfl) (fun _ _ h => absurd h (Nat.not_lt_zero _))
      (fun _ _ h => absurd h (Nat.not_lt_zero _))
  dsimp only
  generalize longestGap 0 ⟨0, 0⟩ ⟨0, 0⟩ groups = gap at hzeros ⊢
  split
  case isFalse =>
    have hread := readGroups_joinGroups (Nat.le_of_eq hlength) hall (.inl rfl)
    rw [List.append_nil] at hread
    unfold readSix
    simp only [hread, hlength, if_true, hvalue]
  case isTrue hgap =>
    obtain ⟨hle, hsplit⟩ := groups_around_gap hzeros (by omega)
    have hfront : (groups.take gap.start).length = gap.start :=
      List.length_take_of_le (by omega)
    have hback : (groups.drop (gap.start + gap.count)).length
        = 8 - gap.start - gap.count := by
      rw [List.length_drop, hlength]
      omega
    -- the groups before the gap, and those behind it
    have hreadFront : readGroups 8 true
        ((joinGroups (groups.take gap.start)).toList ++ ':' :: ':'
          :: (joinGroups (groups.drop (gap.start + gap.count))).toList)
        = (groups.take gap.start, false, ':' :: ':'
          :: (joinGroups (groups.drop (gap.start + gap.count))).toList) :=
      readGroups_joinGroups (by omega)
        (fun g hg => hall g (List.mem_of_mem_take hg)) (.inr ⟨_, rfl⟩)
    have hreadBack : readGroups (7 - gap.start) true
        ((joinGroups (groups.drop (gap.start + gap.count))).toList ++ [])
        = (groups.drop (gap.start + gap.count), false, []) :=
      readGroups_joinGroups (by omega)
        (fun g hg => hall g (List.mem_of_mem_drop hg)) (.inl rfl)
    rw [List.append_nil] at hreadBack
    have hcount : 8 - gap.start
        - (groups.drop (gap.start + gap.count)).length = gap.count := by
      omega
    have htext : (joinGroups (groups.take gap.start) ++ "::"
        ++ joinGroups (groups.drop (gap.start + gap.count))).toList
        = (joinGroups (groups.take gap.start)).toList ++ ':' :: ':'
          :: (joinGroups (groups.drop (gap.start + gap.count))).toList := by
      rw [String.toList_append, String.toList_append, List.append_assoc]
      rfl
    unfold readSix
    rw [htext, hreadFront]
    simp only [hfront, hreadBack, hcount]
    rw [if_neg (by omega), ← hsplit, hvalue]
    rfl

/-- The usual form of an IPv6 address begins with a group or a gap. -/
theorem exists_groupsText (value : Nat) :
    ∃ ds rest, (groupsText value).toList = ds ++ rest ∧ '.' ∉ ds
      ∧ AtColon rest := by
  have hjoin : ∀ groups more, AtGap more → ∃ ds rest,
      (joinGroups groups).toList ++ more = ds ++ rest ∧ '.' ∉ ds
        ∧ AtColon rest := by
    intro groups more hmore
    cases groups with
    | nil => exact ⟨[], more, rfl, List.not_mem_nil, hmore.atColon⟩
    | cons g groups =>
        refine ⟨Nat.toDigits 16 g, groupsTail groups ++ more, ?_,
          dot_not_mem_toDigits g, atColon_groupsTail hmore⟩
        rw [toList_joinGroups, List.append_assoc]
  unfold groupsText
  dsimp only
  split
  · rw [String.toList_append, String.toList_append, List.append_assoc]
    exact hjoin _ _ (.inr ⟨_, rfl⟩)
  · have h := hjoin (groupsOf value) [] (.inl rfl)
    rwa [List.append_nil] at h

/-- An address of either family is read from its usual form. -/
theorem literal?_literalText {family : Family} {value : Nat}
    (h : value < Word.size family.width) :
    literal? (literalText family value).toList = some (family, value) := by
  unfold literal? literalText
  cases family with
  | v4 =>
      dsimp only
      rw [quad?_quadText h]
  | v6 =>
      obtain ⟨ds, rest, htext, hds, hrest⟩ := exists_groupsText value
      have hquad : quad? (groupsText value).toList = none := by
        unfold quad?
        rw [htext, readQuad_eq_none hds hrest]
      have hgroups : groups? (groupsText value).toList = some value := by
        unfold groups?
        rw [readSix_groupsText h]
      dsimp only
      rw [hquad, hgroups]
      rfl

end Gatewatch.Net
