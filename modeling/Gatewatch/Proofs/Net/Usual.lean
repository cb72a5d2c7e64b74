/-
The usual text of an address, and what it is without its lead.

# The form

An address of the second family is written in pieces with colons between
them, each piece a group or nothing (`exists_rows`). The addresses that
stand for one of the first family are an exception: they are written with
a lead and the other address behind it.

# The lead

The characters of the lead are no mark of such an address. A gap and a
group of ones in front of one, three, four or five groups begin in the
same way (`exists_groups_of_lead`), and what is behind the lead is then no
address, nor is there one inside it (`read_joinGroups`): no gap is left,
and too few groups.
-/
import Gatewatch.Proofs.Net.Address
import Gatewatch.Proofs.Net.Search
import Mathlib.Data.List.Basic

namespace Gatewatch.Net

-- ============================================================ the form

/-- What is written in front of an IPv4 address inside IPv6. -/
def mappedLeadText : String := "::ffff:"

/-- An address as it is usually written. -/
def usualText : Family → Nat → String
  | .v4, value => quadText value
  | .v6, value =>
    if isMapped value then mappedLeadText ++ quadText (value % Word.size 32)
    else groupsText value

theorem usualText_of_isMapped {value : Nat} (h : isMapped value = true) :
    usualText .v6 value
      = mappedLeadText ++ quadText (value % Word.size 32) :=
  if_pos h

theorem usualText_of_unmapped {value : Nat} (h : isMapped value = false) :
    usualText .v6 value = groupsText value :=
  if_neg (by rw [h]; exact Bool.false_ne_true)

/-- A group of an address, or nothing. -/
def IsPiece (p : List Char) : Prop :=
  p = [] ∨ ∃ g < 65536, p = Nat.toDigits 16 g

/-- Pieces, each with a colon in front. -/
def rowsText (rows : List (List Char)) : List Char :=
  rows.flatMap (':' :: ·)

/-- The pieces of some groups. -/
def piecesOf (groups : List Nat) : List (List Char) :=
  if groups = [] then [[]] else groups.map (Nat.toDigits 16)

theorem rowsText_cons (p : List Char) (rows : List (List Char)) :
    rowsText (p :: rows) = ':' :: p ++ rowsText rows :=
  List.flatMap_cons

theorem rowsText_append (a b : List (List Char)) :
    rowsText (a ++ b) = rowsText a ++ rowsText b :=
  List.flatMap_append

theorem atColon_cons (rest : List Char) : AtColon (':' :: rest) :=
  fun c hc => by rw [← Option.some.inj hc]

theorem AtColon.append {a b : List Char} (ha : AtColon a) (hb : AtColon b) :
    AtColon (a ++ b) := by
  cases a with
  | nil => exact hb
  | cons c a => exact ha

theorem atColon_rowsText (rows : List (List Char)) :
    AtColon (rowsText rows) := by
  cases rows with
  | nil => nofun
  | cons p rows => exact atColon_cons _

theorem groupsTail_eq_rowsText (groups : List Nat) :
    groupsTail groups = rowsText (groups.map (Nat.toDigits 16)) := by
  unfold groupsTail rowsText
  rw [List.flatMap_map]

theorem rowsText_piecesOf (groups : List Nat) :
    rowsText (piecesOf groups) = ':' :: (joinGroups groups).toList := by
  unfold piecesOf
  cases groups with
  | nil => rfl
  | cons g groups =>
      rw [if_neg (List.cons_ne_nil g groups), toList_joinGroups,
        groupsTail_eq_rowsText, List.map_cons, rowsText_cons,
        List.cons_append]

theorem isPiece_of_mem_piecesOf {groups : List Nat}
    (hall : ∀ g ∈ groups, g < 65536) : ∀ p ∈ piecesOf groups, IsPiece p := by
  intro p hp
  unfold piecesOf at hp
  split at hp
  case isTrue => exact .inl (List.mem_singleton.1 hp)
  case isFalse =>
    obtain ⟨g, hg, rfl⟩ := List.mem_map.1 hp
    exact .inr ⟨g, hall g hg, rfl⟩

theorem length_piecesOf (groups : List Nat) :
    (piecesOf groups).length = max 1 groups.length := by
  unfold piecesOf
  cases groups with
  | nil => rfl
  | cons g groups =>
      rw [if_neg (List.cons_ne_nil g groups), List.length_map,
        List.length_cons]
      omega

/-- How the text of an address comes about: all its groups, or those
before and behind a gap of two or more. -/
theorem groupsText_cases (value : Nat) :
    (groupsText value = joinGroups (groupsOf value))
    ∨ ∃ front count back, 2 ≤ count
      ∧ groupsOf value = front ++ List.replicate count 0 ++ back
      ∧ (groupsText value).toList
        = (joinGroups front).toList ++ ':' :: ':'
          :: (joinGroups back).toList := by
  have hzeros : (longestGap 0 ⟨0, 0⟩ ⟨0, 0⟩ (groupsOf value)).Zeros
      (groupsOf value) :=
    zeros_longestGap rfl (.inl rfl) (fun _ _ h => absurd h (Nat.not_lt_zero _))
      (fun _ _ h => absurd h (Nat.not_lt_zero _))
  unfold groupsText
  dsimp only
  generalize longestGap 0 ⟨0, 0⟩ ⟨0, 0⟩ (groupsOf value) = gap at hzeros ⊢
  split
  case isFalse => exact .inl rfl
  case isTrue hgap =>
    obtain ⟨-, hsplit⟩ := groups_around_gap hzeros (by omega)
    refine .inr ⟨_, gap.count, _, hgap, hsplit, ?_⟩
    rw [String.toList_append, String.toList_append, List.append_assoc]
    rfl

/-- The text of an address is three to eight pieces. -/
theorem exists_rows (value : Nat) :
    ∃ rows, ':' :: (groupsText value).toList = rowsText rows
      ∧ 3 ≤ rows.length ∧ rows.length ≤ 8 ∧ ∀ p ∈ rows, IsPiece p := by
  have hall := groupsOf_lt value
  have hlength : (groupsOf value).length = 8 := rfl
  rcases groupsText_cases value with htext | ⟨front, count, back, hcount,
    hsplit, htext⟩
  · refine ⟨piecesOf (groupsOf value), ?_, ?_, ?_,
      isPiece_of_mem_piecesOf hall⟩
    · rw [htext, rowsText_piecesOf]
    · rw [length_piecesOf, hlength]
      decide
    · rw [length_piecesOf, hlength]
      decide
  · rw [hsplit] at hall hlength
    rw [List.length_append, List.length_append, List.length_replicate]
      at hlength
    refine ⟨piecesOf front ++ [] :: piecesOf back, ?_, ?_, ?_, ?_⟩
    · rw [htext, rowsText_append, rowsText_piecesOf]
      show _ = _ ++ ':' :: rowsText (piecesOf back)
      rw [rowsText_piecesOf, List.cons_append]
    · rw [List.length_append, List.length_cons, length_piecesOf,
        length_piecesOf]
      omega
    · rw [List.length_append, List.length_cons, length_piecesOf,
        length_piecesOf]
      omega
    · intro p hp
      rcases List.mem_append.1 hp with hp | hp
      · exact isPiece_of_mem_piecesOf (fun g hg => hall g (by simp [hg])) p hp
      · rcases List.mem_cons.1 hp with rfl | hp
        · exact .inl rfl
        · exact isPiece_of_mem_piecesOf
            (fun g hg => hall g (by simp [hg])) p hp

-- ============================================================ the lead

/-- The address is written with the characters of the lead and stands for
no IPv4 address. -/
def LosesLead (family : Family) (value : Nat) : Prop :=
  family = .v6 ∧ isMapped value = false
    ∧ mappedLeadText.toList <+: (groupsText value).toList

instance (family : Family) (value : Nat) :
    Decidable (LosesLead family value) :=
  inferInstanceAs (Decidable (_ ∧ _ ∧ _))

theorem colon_not_mem_toDigits (g : Nat) : ':' ∉ Nat.toDigits 16 g := by
  obtain ⟨ds, hds, hlt, -⟩ := exists_digits (by decide : 1 < 16) g
  have hall : ∀ d < 16, Nat.digitChar d ≠ ':' := by decide
  intro hmem
  rw [hds] at hmem
  obtain ⟨d, hd, hc⟩ := List.mem_map.1 hmem
  exact hall d (hlt d hd) hc

/-- What stands before the first colon of a text. -/
theorem eq_of_append_atColon {a b x y : List Char} (ha : ':' ∉ a)
    (hb : ':' ∉ b) (hx : AtColon x) (hy : AtColon y)
    (h : a ++ x = b ++ y) : a = b ∧ x = y := by
  have htake : ∀ {a x : List Char}, ':' ∉ a → AtColon x →
      (a ++ x).takeWhile (· != ':') = a := by
    intro a x ha hx
    have hstop : x.takeWhile (· != ':') = [] := by
      cases x with
      | nil => rfl
      | cons c x =>
          rw [hx c rfl]
          rfl
    rw [List.takeWhile_append_of_pos, hstop, List.append_nil]
    intro c hc
    simpa using fun heq : c = ':' => ha (heq ▸ hc)
  have heq : a = b := by rw [← htake ha hx, h, htake hb hy]
  subst heq
  exact ⟨rfl, List.append_cancel_left h⟩

theorem IsPiece.colon_not_mem {p : List Char} (h : IsPiece p) : ':' ∉ p := by
  rcases h with rfl | ⟨g, -, rfl⟩
  · exact List.not_mem_nil
  · exact colon_not_mem_toDigits g

theorem IsPiece.length_le {p : List Char} (h : IsPiece p) : p.length ≤ 4 := by
  rcases h with rfl | ⟨g, hg, rfl⟩
  · exact Nat.zero_le 4
  · exact (Nat.length_toDigits_le_iff (by decide) (by decide)).2 hg

/-- No group is longer than that of the lead. -/
theorem lead_of_letters {value n : Nat} {rest : List Char} (hn : 4 ≤ n)
    (h : (groupsText value).toList
      = ':' :: ':' :: List.replicate n 'f' ++ ':' :: rest) :
    mappedLeadText.toList <+: (groupsText value).toList := by
  obtain ⟨rows, hrows, hlow, -, hpieces⟩ := exists_rows value
  obtain ⟨a, b, c, more, rfl⟩ : ∃ a b c more, rows = a :: b :: c :: more := by
    match rows, hlow with
    | a :: b :: c :: more, _ => exact ⟨a, b, c, more, rfl⟩
  have hfront : a ++ (':' :: (b ++ ':' :: (c ++ rowsText more)))
      = [] ++ ':' :: ([] ++ ':' :: (List.replicate n 'f' ++ ':' :: rest)) := by
    rw [h] at hrows
    simp only [rowsText_cons, List.cons_append] at hrows
    injection hrows with _ hrows
    exact hrows.symm
  obtain ⟨-, hfront⟩ := eq_of_append_atColon
    (hpieces a (by simp)).colon_not_mem List.not_mem_nil (atColon_cons _)
    (atColon_cons _) hfront
  injection hfront with _ hfront
  obtain ⟨-, hfront⟩ := eq_of_append_atColon
    (hpieces b (by simp)).colon_not_mem List.not_mem_nil (atColon_cons _)
    (atColon_cons _) hfront
  injection hfront with _ hfront
  obtain ⟨hc, -⟩ := eq_of_append_atColon (hpieces c (by simp)).colon_not_mem
    (fun hmem => absurd (List.mem_replicate.1 hmem).2 (by decide))
    (atColon_rowsText more) (atColon_cons _) hfront
  have hle := (hpieces c (by simp)).length_le
  rw [hc, List.length_replicate] at hle
  obtain rfl : n = 4 := by omega
  exact ⟨rest, h.symm⟩

/-- A group tells its digits, and they tell it. -/
theorem eq_of_toDigits_eq {g g' : Nat} (hg : g < 65536) (hg' : g' < 65536)
    (h : Nat.toDigits 16 g = Nat.toDigits 16 g') : g = g' := by
  have hread : ∀ n < 65536,
      readNumber 16 4 true (Nat.toDigits 16 n ++ []) = some (n, []) :=
    fun n hn => readNumber_toDigits true (by decide) (by decide) (by decide)
      hn (noDigit_nil 16)
  have heq := hread g hg
  rw [h, hread g' hg'] at heq
  exact (Prod.mk.inj (Option.some.inj heq)).1.symm

/-- A text of groups that begins with a colon has none. -/
theorem eq_nil_of_joinGroups {groups : List Nat} {x y : List Char}
    (hx : AtGap x) (h : (joinGroups groups).toList ++ x = ':' :: y) :
    groups = [] := by
  cases groups with
  | nil => rfl
  | cons g groups =>
      rw [toList_joinGroups, List.append_assoc] at h
      have hnone := (eq_of_append_atColon (b := [])
        (colon_not_mem_toDigits g) List.not_mem_nil
        (atColon_groupsTail hx) (atColon_cons y) h).1
      exact absurd hnone Nat.toDigits_ne_nil

/-- Five groups of zeros and one of ones stand in front of an IPv4
address. -/
theorem isMapped_ofGroups {a b : Nat} (ha : a < 65536) (hb : b < 65536) :
    isMapped (ofGroups [0, 0, 0, 0, 0, 65535, a, b]) = true := by
  have hsize : Word.size 32 = 4294967296 := rfl
  unfold isMapped ofGroups ofDigits mappedLead
  simp only [List.foldl_cons, List.foldl_nil, hsize, beq_iff_eq]
  omega

/-- An address that is written with the characters of the lead begins
with a gap and a group of ones. -/
theorem exists_gap_of_lead {value : Nat}
    (hlead : mappedLeadText.toList <+: (groupsText value).toList) :
    ∃ count groups, 2 ≤ count ∧ groups ≠ []
      ∧ groupsOf value = List.replicate count 0 ++ 65535 :: groups
      ∧ (groupsText value).toList
        = mappedLeadText.toList ++ (joinGroups groups).toList := by
  have hchars : mappedLeadText.toList
      = ':' :: ':' :: (['f', 'f', 'f', 'f'] ++ [':']) := rfl
  obtain ⟨after, hafter⟩ := hlead
  rw [hchars] at hafter ⊢
  have hall := groupsOf_lt value
  rcases groupsText_cases value with htext | ⟨front, count, back, hcount,
    hsplit, htext⟩
  · -- a text without a gap begins with a digit
    have hlength : (groupsOf value).length = 8 := rfl
    rw [htext, ← List.append_nil (joinGroups _).toList] at hafter
    rw [eq_nil_of_joinGroups (.inl rfl) hafter.symm] at hlength
    cases hlength
  · rw [htext] at hafter
    obtain rfl := eq_nil_of_joinGroups (.inr ⟨_, rfl⟩) hafter.symm
    have hback : (joinGroups back).toList
        = ['f', 'f', 'f', 'f'] ++ ':' :: after := by
      injection hafter with _ hafter
      injection hafter with _ hafter
      exact hafter.symm
    rw [hsplit] at hall
    cases back with
    | nil => cases hback
    | cons g groups =>
        rw [toList_joinGroups] at hback
        have htail : AtColon (groupsTail groups ++ []) :=
          atColon_groupsTail (.inl rfl)
        rw [List.append_nil] at htail
        obtain ⟨hg, hmore⟩ := eq_of_append_atColon (colon_not_mem_toDigits g)
          (by decide) htail (atColon_cons after) hback
        obtain rfl : g = 65535 := eq_of_toDigits_eq (hall g (by simp))
          (by decide) (hg.trans rfl)
        cases groups with
        | nil => cases hmore
        | cons m groups =>
            have hjoin : (joinGroups (m :: groups)).toList = after := by
              rw [toList_joinGroups]
              injection hmore
            refine ⟨count, m :: groups, hcount, List.cons_ne_nil _ _,
              hsplit, ?_⟩
            rw [hjoin, htext, ← hafter]

/-- Behind the characters of the lead are one, three, four or five groups,
unless the address stands for an IPv4 address. -/
theorem exists_groups_of_lead {value : Nat} (hvalue : value < Word.size 128)
    (hunmapped : isMapped value = false)
    (hlead : mappedLeadText.toList <+: (groupsText value).toList) :
    ∃ groups, (groupsText value).toList
        = mappedLeadText.toList ++ (joinGroups groups).toList
      ∧ 1 ≤ groups.length ∧ groups.length ≤ 5 ∧ groups.length ≠ 2
      ∧ ∀ g ∈ groups, g < 65536 := by
  obtain ⟨count, groups, hcount, hne, hsplit, htext⟩ :=
    exists_gap_of_lead hlead
  have hall := groupsOf_lt value
  have hlength : (groupsOf value).length = 8 := rfl
  have hsum := ofGroups_groupsOf hvalue
  have hpos := List.length_pos_iff.2 hne
  rw [hsplit] at hall hlength hsum
  rw [List.length_append, List.length_replicate, List.length_cons] at hlength
  refine ⟨groups, htext, hpos, by omega, fun htwo => ?_,
    fun g hg => hall g (by simp [hg])⟩
  obtain ⟨a, b, rfl⟩ := List.length_eq_two.1 htwo
  obtain rfl : count = 5 := by omega
  have hmapped : isMapped value = true := by
    rw [← hsum]
    exact isMapped_ofGroups (hall a (by simp)) (hall b (by simp))
  rw [hunmapped] at hmapped
  cases hmapped

-- ======================================================== the addresses

/-- A host is written as a literal of its family, unless it stands for an
IPv4 address. -/
theorem text_ofHost {family : Family} {value : Nat}
    (h : value < Word.size family.width)
    (hunmapped : family = .v6 → isMapped value = false) :
    (Address.ofHost family value).text = literalText family value := by
  have hclear : Block.clear family value family.width = value := by
    unfold Block.clear
    rw [Nat.sub_self, Word.size_zero, Nat.mod_one, Nat.sub_zero]
  have hhost : Block.host? family value
      = Block.covering? family value family.width := by
    unfold Block.host? Block.written?
    cases family with
    | v4 => rfl
    | v6 =>
        dsimp only
        rw [hunmapped rfl, Bool.false_and, if_neg Bool.false_ne_true]
  unfold Address.ofHost
  rw [hhost, Block.covering?, dif_pos ⟨Nat.le_refl _, h, fun hfamily => by
    rw [hclear, hunmapped hfamily]⟩]
  show (if (family.width == family.width) = true then _ else _) = _
  rw [if_pos (beq_self_eq_true _)]
  show literalText family (Block.clear family value family.width) = _
  rw [hclear]

/-- An address that stands for an IPv4 address is that address. -/
theorem ofHost_of_isMapped {value : Nat} (h : isMapped value = true) :
    Address.ofHost .v6 value = .ofHost .v4 (value % Word.size 32) := by
  have hhost : Block.host? .v6 value
      = Block.host? .v4 (value % Word.size 32) := by
    unfold Block.host? Block.written?
    dsimp only
    rw [h, Bool.true_and, if_pos (by decide), if_pos (by decide)]
    rfl
  have hmod : value % Word.size 32 < Word.size Family.v4.width :=
    Nat.mod_lt value (Word.size_pos 32)
  obtain ⟨b, hb⟩ := isBlock_ofHost hmod
  unfold Address.ofHost at hb ⊢
  rw [hhost]
  cases hcase : Block.host? .v4 (value % Word.size 32) with
  | some b => rfl
  | none =>
      rw [hcase] at hb
      cases hb

/-- A host is read from its text. -/
theorem addresses_text_ofHost {family : Family} {value : Nat}
    (h : value < Word.size family.width) (mode : UseDns)
    (names : Resolver) :
    (textToAddresses (Address.ofHost family value).text mode names).value
      = [.ofHost family value] := by
  obtain ⟨b, hb⟩ := isBlock_ofHost h
  have hparse := (Address.Given.host h).parse_text
  rw [value_textToAddresses, Token.read, hparse, hb]
  rfl

end Gatewatch.Net
