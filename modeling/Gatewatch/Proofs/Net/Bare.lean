/-
Texts in which no address is found.

A text of which no part is an address stands for nothing when names are
not resolved: it is neither read as an address nor is one found inside it,
as all that is read or found is a part of it (`addresses_of_isBare`).
Groups of an address make up such a text when there is no gap among them
and they are fewer than eight (`isBare_joinGroups`): each group but the
first has a colon in front, so what is read of a text has at most one
group more than the text has colons.
-/
import Gatewatch.Proofs.Net.Usual

namespace Gatewatch.Net

-- ========================================================== no address

/-- A text without dots is no IPv4 address, nor does it begin with one. -/
theorem readQuad_of_no_dot {cs : List Char} (h : '.' ∉ cs) :
    readQuad cs = none := by
  have hread : readQuad (cs ++ []) = none := readQuad_eq_none h nofun
  rwa [List.append_nil] at hread

/-- A number leaves the end of its text. -/
theorem suffix_of_readNumber {base count n : Nat} {zeros : Bool}
    {cs rest : List Char}
    (h : readNumber base count zeros cs = some (n, rest)) : rest <:+ cs := by
  unfold readNumber at h
  dsimp only at h
  split at h
  case isTrue => cases h
  case isFalse =>
    split at h
    case isTrue => cases h
    case isFalse =>
      rw [← (Prod.mk.inj (Option.some.inj h)).2]
      exact List.drop_suffix _ _

/-- Each group but the first has a colon in front. -/
theorem length_readGroups_le (room : Nat) (first : Bool) {cs : List Char}
    (hdot : '.' ∉ cs) :
    ∃ front, cs = front ++ (readGroups room first cs).2.2
      ∧ (readGroups room first cs).1.length
        ≤ front.count ':' + if first then 1 else 0 := by
  induction room generalizing first cs with
  | zero => exact ⟨[], rfl, Nat.zero_le _⟩
  | succ room ih =>
      unfold readGroups
      split
      case h_1 => exact ⟨[], rfl, Nat.zero_le _⟩
      case h_2 after hafter =>
        -- the colon in front, if one has to be there
        have hcolon : ∃ mark, cs = mark ++ after
            ∧ 1 ≤ mark.count ':' + if first then 1 else 0 := by
          cases first with
          | true => exact ⟨[], Option.some.inj hafter, by decide⟩
          | false => exact ⟨[':'], readMark_eq_some hafter, by decide⟩
        obtain ⟨mark, rfl, hmark⟩ := hcolon
        have hdotAfter : '.' ∉ after :=
          fun h => hdot (List.mem_append_right mark h)
        rw [readQuad_of_no_dot hdotAfter, ite_self]
        dsimp only
        split
        case h_2 => exact ⟨[], rfl, Nat.zero_le _⟩
        case h_1 group rest hread =>
          obtain ⟨digits, rfl⟩ := suffix_of_readNumber hread
          obtain ⟨front, hfront, hcount⟩ := ih false
            fun h => hdotAfter (List.mem_append_right digits h)
          refine ⟨mark ++ (digits ++ front), ?_, ?_⟩
          · simp only [List.append_assoc]
            rw [← hfront]
          · simp only [List.length_cons, List.count_append] at hcount ⊢
            simp only [Bool.false_eq_true, if_false] at hcount
            omega

/-- A text without a gap has seven colons if it is an address. -/
theorem groups?_eq_none {cs : List Char} (hdot : '.' ∉ cs)
    (hgap : ¬ [':', ':'] <:+: cs) (hcount : cs.count ':' < 7) :
    groups? cs = none := by
  obtain ⟨front, hfront, hlength⟩ := length_readGroups_le 8 true hdot
  unfold groups? readSix
  generalize readGroups 8 true cs = read at *
  obtain ⟨groups, quad, rest⟩ := read
  dsimp only at hfront hlength ⊢
  have hshort : groups.length ≠ 8 := by
    have hcounts := congrArg (List.count ':') hfront
    rw [List.count_append] at hcounts
    rw [if_pos rfl] at hlength
    omega
  rw [if_neg hshort]
  cases quad with
  | true => rfl
  | false =>
      rw [if_neg Bool.false_ne_true]
      split
      case h_2 => rfl
      case h_1 value h =>
        split at h
        case h_2 => cases h
        case h_1 after =>
          exact absurd ⟨front, after, by rw [hfront]; simp⟩ hgap

/-- A gap does not begin in front of the first colon. -/
theorem gap_of_append {a b : List Char} (ha : ':' ∉ a)
    (h : [':', ':'] <:+: a ++ b) : [':', ':'] <:+: b := by
  induction a with
  | nil => exact h
  | cons c a ih =>
      rw [List.mem_cons, not_or] at ha
      rcases List.infix_cons_iff.1 h with hfront | hrest
      · exact absurd (List.cons_prefix_cons.1 hfront).1 ha.1
      · exact ih ha.2 hrest

/-- Between groups stands one colon each. -/
theorem no_gap_in_joinGroups (groups : List Nat) :
    ¬ [':', ':'] <:+: (joinGroups groups).toList := by
  cases groups with
  | nil => decide
  | cons g groups =>
      rw [toList_joinGroups]
      induction groups generalizing g with
      | nil =>
          intro h
          have hnil := gap_of_append (colon_not_mem_toDigits g) h
          exact absurd hnil (by decide)
      | cons m groups ih =>
          intro h
          have htail := gap_of_append (colon_not_mem_toDigits g) h
          have hcons : groupsTail (m :: groups)
              = ':' :: (Nat.toDigits 16 m ++ groupsTail groups) := rfl
          rw [hcons] at htail
          rcases List.infix_cons_iff.1 htail with hfront | hrest
          · -- the colon is followed by a digit
            obtain ⟨rest, hrest⟩ := (List.cons_prefix_cons.1 hfront).2
            have hnone := (eq_of_append_atColon (colon_not_mem_toDigits m)
              List.not_mem_nil (atColon_groupsTail (.inl rfl))
              (atColon_cons rest) (by
                rw [List.append_nil]; exact hrest.symm)).1
            exact Nat.toDigits_ne_nil hnone
          · exact ih m hrest

theorem count_colon_joinGroups (groups : List Nat) :
    (joinGroups groups).toList.count ':' = groups.length - 1 := by
  have hdigits : ∀ g, (Nat.toDigits 16 g).count ':' = 0 := fun g =>
    List.count_eq_zero.2 (colon_not_mem_toDigits g)
  have htail : ∀ groups, (groupsTail groups).count ':' = groups.length := by
    intro groups
    induction groups with
    | nil => rfl
    | cons g groups ih =>
        have hcons : groupsTail (g :: groups)
            = ':' :: (Nat.toDigits 16 g ++ groupsTail groups) := rfl
        rw [hcons, List.count_cons_self, List.count_append, hdigits, ih,
          Nat.zero_add, List.length_cons]
  cases groups with
  | nil => rfl
  | cons g groups =>
      rw [toList_joinGroups, List.count_append, hdigits, htail,
        Nat.zero_add, List.length_cons, Nat.add_sub_cancel]

theorem dot_not_mem_joinGroups (groups : List Nat) :
    '.' ∉ (joinGroups groups).toList := by
  cases groups with
  | nil => decide
  | cons g groups =>
      rw [toList_joinGroups, List.mem_append, not_or]
      refine ⟨dot_not_mem_toDigits g, fun h => ?_⟩
      obtain ⟨m, -, hm⟩ := List.mem_flatMap.1 h
      rcases List.mem_cons.1 hm with hcolon | hm
      · exact absurd hcolon (by decide)
      · exact dot_not_mem_toDigits m hm

/-- What a pattern finds is a part of the text. -/
theorem infix_of_mem_matchesFrom {node : Pattern.Node} {fuel : Nat}
    {before : Option Char} {text found : List Char}
    (h : found ∈ matchesFrom node fuel before text) : found <:+: text := by
  induction fuel generalizing before text with
  | zero => cases h
  | succ fuel ih =>
      unfold matchesFrom at h
      split at h
      case h_1 => cases h
      case h_2 m hm =>
        rcases List.mem_cons.1 h with rfl | h
        · have hfront : Text.upTo (m.span.stop - m.span.start)
              (Text.beyond m.span.start text)
                <:+: Text.beyond m.span.start text :=
            ⟨[], _, by rw [List.nil_append, Text.upTo_append_beyond]⟩
          have hback : Text.beyond m.span.start text <:+ text :=
            ⟨_, Text.upTo_append_beyond _ _⟩
          exact hfront.trans hback.isInfix
        · have hback : Text.beyond m.span.stop text <:+ text :=
            ⟨_, Text.upTo_append_beyond _ _⟩
          exact (ih h).trans hback.isInfix

/-- No part of the text is an address. -/
def IsBare (cs : List Char) : Prop :=
  ∀ part, part <:+: cs → quad? part = none ∧ groups? part = none

/-- A text in which no part is an address is searched in vain. -/
theorem search_of_isBare {text : String} (h : IsBare text.toList) :
    search text = none := by
  have hfour : searchQuad text.toList = none := by
    rw [searchQuad_eq, List.findSome?_eq_none_iff]
    intro run hrun
    obtain ⟨front, back, htext, -⟩ :=
      exists_of_mem_runsOf ((takenRuns_sublist _ _).subset hrun)
    exact (h run ⟨front, back, by rw [htext, List.append_assoc]⟩).1
  have hsix : searchSix text.toList = none := by
    unfold searchSix
    rw [List.findSome?_eq_none_iff]
    exact fun found hfound => (h found (infix_of_mem_matchesFrom hfound)).2
  unfold search
  rw [hfour, hsix]
  rfl

theorem trim_infix (text : String) :
    (Text.trim text).toList <:+: text.toList := by
  unfold Text.trim Text.trimEndChars
  rw [String.toList_ofList]
  have hend : ((Text.trimStartChars (Text.trimStartChars
      text.toList).reverse).reverse) <+: Text.trimStartChars text.toList := by
    rw [← List.reverse_suffix, List.reverse_reverse]
    exact List.dropWhile_suffix _
  exact hend.isInfix.trans (List.dropWhile_suffix _).isInfix

/-- Nor is it read as one. -/
theorem isValid_of_isBare {text : String} (h : IsBare text.toList)
    (hbracket : '[' ∉ text.toList) :
    (Address.parse text).isValid = false := by
  have htrim := trim_infix text
  generalize hhost : (Text.trim text).toList.takeWhile (· != '/') = host
  have hpart : host <:+: text.toList := by
    rw [← hhost]
    exact (List.takeWhile_prefix _).isInfix.trans htrim
  have hplain : unbracket host = host := by
    unfold unbracket
    split
    · exact absurd (hpart.subset List.mem_cons_self) hbracket
    · rfl
  have hnone : Block.read? (Text.trim text).toList = none := by
    obtain ⟨hquad, hgroups⟩ := h host hpart
    unfold Block.read?
    simp only [hhost, hplain]
    unfold literal?
    rw [hquad, hgroups]
    rfl
  rw [Address.parse_eq_other hnone]
  rfl

/-- So it stands for nothing when names are not resolved. -/
theorem addresses_of_isBare {text : String} (h : IsBare text.toList)
    (hbracket : '[' ∉ text.toList) (names : Resolver) :
    (textToAddresses text .no names).value = [] := by
  rw [value_textToAddresses]
  unfold Token.read
  dsimp only
  rw [isValid_of_isBare h hbracket, search_of_isBare h]
  rfl

/-- Groups without a gap are no address when they are too few. -/
theorem isBare_joinGroups {groups : List Nat} (h : groups.length < 8) :
    IsBare (joinGroups groups).toList := by
  intro part hpart
  have hdot : '.' ∉ part :=
    fun h => dot_not_mem_joinGroups groups (hpart.subset h)
  have hcount := hpart.sublist.count_le ':'
  rw [count_colon_joinGroups] at hcount
  constructor
  · unfold quad?
    rw [readQuad_of_no_dot hdot]
  · exact groups?_eq_none hdot
      (fun h => no_gap_in_joinGroups groups (h.trans hpart)) (by omega)

/-- They stand for nothing when names are not resolved. -/
theorem addresses_joinGroups {groups : List Nat} (h : groups.length < 8)
    (names : Resolver) :
    (textToAddresses (joinGroups groups) .no names).value = [] := by
  refine addresses_of_isBare (isBare_joinGroups h) (fun hbracket => ?_) names
  exact absurd (mem_literalChars_of_joinGroups groups '[' hbracket)
    (by decide)

end Gatewatch.Net
