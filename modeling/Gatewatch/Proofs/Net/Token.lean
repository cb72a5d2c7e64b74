/-
Host tokens: what they stand for when names are not resolved.

A token is then an address literal, has one inside it, or stands for
nothing, so every address of it is a network block (`block_of_no_dns`).
What has to be shown is that a literal found inside a token is no number
too large for its family: a number of some digits is below the base to
the power of how many they are (`ofDigits_lt`), and each reader bounds
both its digits and how many it takes.
-/
import Gatewatch.Net.HostName

namespace Gatewatch.Net

-- ============================================================= digits

/-- Digits below their base make a number below its power. -/
theorem ofDigits_lt {base : Nat} {digits : List Nat}
    (h : ∀ d ∈ digits, d < base) :
    ofDigits base digits < base.pow digits.length := by
  have hfold : ∀ start : Nat, digits.foldl (fun n d => base * n + d) start
      < base ^ digits.length * (start + 1) := by
    induction digits with
    | nil =>
        intro start
        rw [List.foldl_nil, List.length_nil, Nat.pow_zero, Nat.one_mul]
        exact Nat.lt_succ_self start
    | cons d digits ih =>
        intro start
        have hd := h d List.mem_cons_self
        have hrest := ih (fun x hx => h x (List.mem_cons_of_mem d hx))
          (base * start + d)
        have hnext : base * start + d + 1 ≤ base * (start + 1) := by
          rw [Nat.mul_succ]
          omega
        rw [List.foldl_cons, List.length_cons, Nat.pow_succ, Nat.mul_assoc]
        exact Nat.lt_of_lt_of_le hrest (Nat.mul_le_mul_left _ hnext)
  have hzero := hfold 0
  rw [Nat.zero_add, Nat.mul_one] at hzero
  exact hzero

/-- A digit is below its base. -/
theorem digitValue?_lt {base d : Nat} {c : Char}
    (h : digitValue? base c = some d) : d < base := by
  unfold digitValue? at h
  obtain ⟨-, hlt⟩ := Option.filter_eq_some_iff.1 h
  exact of_decide_eq_true hlt

/-- A number of at most `count` digits. -/
theorem readNumber_lt {base count n : Nat} {zeros : Bool}
    {cs rest : List Char} (hbase : 0 < base)
    (h : readNumber base count zeros cs = some (n, rest)) :
    n < base.pow count := by
  have hdigits : ∀ d ∈ leadingDigits base cs, d < base := by
    intro d hd
    obtain ⟨c, -, hc⟩ := List.mem_filterMap.1 hd
    exact digitValue?_lt hc
  unfold readNumber at h
  simp only [] at h
  split at h
  case isTrue => cases h
  case isFalse hshort =>
    split at h
    case isTrue => cases h
    case isFalse =>
      injection h with h
      injection h with hn
      rw [Bool.or_eq_true, not_or, decide_eq_true_eq] at hshort
      rw [← hn]
      exact Nat.lt_of_lt_of_le (ofDigits_lt hdigits)
        (Nat.pow_le_pow_right hbase (Nat.le_of_not_lt hshort.2))

-- =========================================================== literals

/-- A byte of an IPv4 literal. -/
theorem readByte_lt {cs rest : List Char} {n : Nat}
    (h : readByte cs = some (n, rest)) : n < 256 := by
  obtain ⟨-, hlt⟩ := Option.filter_eq_some_iff.1 h
  exact of_decide_eq_true hlt

/-- An IPv4 literal has 32 bits. -/
theorem readQuad_lt {cs rest : List Char} {value : Nat}
    (h : readQuad cs = some (value, rest)) : value < Word.size 32 := by
  obtain ⟨⟨a, cs₁⟩, ha, h⟩ := Option.bind_eq_some_iff.1 h
  obtain ⟨cs₂, -, h⟩ := Option.bind_eq_some_iff.1 h
  obtain ⟨⟨b, cs₃⟩, hb, h⟩ := Option.bind_eq_some_iff.1 h
  obtain ⟨cs₄, -, h⟩ := Option.bind_eq_some_iff.1 h
  obtain ⟨⟨c, cs₅⟩, hc, h⟩ := Option.bind_eq_some_iff.1 h
  obtain ⟨cs₆, -, h⟩ := Option.bind_eq_some_iff.1 h
  obtain ⟨⟨d, cs₇⟩, hd, h⟩ := Option.bind_eq_some_iff.1 h
  injection h with h
  injection h with hvalue
  have ha := readByte_lt ha
  have hb := readByte_lt hb
  have hc := readByte_lt hc
  have hd := readByte_lt hd
  rw [← hvalue]
  show ((a * 256 + b) * 256 + c) * 256 + d < 4294967296
  omega

/-- Groups of 16 bits, no more than there is room for. -/
theorem readGroups_bound (room : Nat) (first : Bool) (cs : List Char) :
    (readGroups room first cs).1.length ≤ room
      ∧ ∀ g ∈ (readGroups room first cs).1, g < 65536 := by
  induction room generalizing first cs with
  | zero => exact ⟨Nat.le_refl 0, nofun⟩
  | succ room ih =>
      have hnone : ([] : List Nat).length ≤ room + 1
          ∧ ∀ g ∈ ([] : List Nat), g < 65536 :=
        ⟨Nat.zero_le _, nofun⟩
      unfold readGroups
      split
      case h_1 => exact hnone
      case h_2 after hafter =>
        split
        case h_1 value rest hquad =>
          -- an IPv4 literal fills two groups
          by_cases hroom : room = 0
          · rw [if_pos hroom] at hquad
            cases hquad
          · rw [if_neg hroom] at hquad
            have hvalue := readQuad_lt hquad
            change value < 4294967296 at hvalue
            refine ⟨?_, ?_⟩
            · show 2 ≤ room + 1
              omega
            · intro g hg
              simp only [List.mem_cons, List.not_mem_nil, or_false] at hg
              rcases hg with rfl | rfl <;> omega
        case h_2 hquad =>
          split
          case h_1 group rest hgroup =>
            obtain ⟨hlen, hall⟩ := ih false rest
            refine ⟨Nat.succ_le_succ hlen, ?_⟩
            intro g hg
            rcases List.mem_cons.1 hg with rfl | hg
            · exact readNumber_lt (by decide) hgroup
            · exact hall g hg
          case h_2 => exact hnone

/-- An IPv6 literal has 128 bits. -/
theorem readSix_lt {cs rest : List Char} {value : Nat}
    (h : readSix cs = some (value, rest)) : value < Word.size 128 := by
  have height : ∀ groups : List Nat, groups.length = 8 →
      (∀ g ∈ groups, g < 65536) → ofGroups groups < Word.size 128 := by
    intro groups hlen hall
    have hlt := ofDigits_lt hall
    rw [hlen] at hlt
    exact hlt
  unfold readSix at h
  obtain ⟨hfront, hfrontAll⟩ := readGroups_bound 8 true cs
  rcases hread : readGroups 8 true cs with ⟨front, quad, behind⟩
  rw [hread] at h hfront hfrontAll
  dsimp only at h hfront hfrontAll
  split at h
  case isTrue hfull =>
    injection h with h
    injection h with hvalue
    rw [← hvalue]
    exact height front hfull hfrontAll
  case isFalse hshort =>
    split at h
    case isTrue => cases h
    case isFalse =>
      split at h
      case h_1 after =>
        obtain ⟨hback, hbackAll⟩ :=
          readGroups_bound (7 - front.length) true after
        injection h with h
        injection h with hvalue
        rw [← hvalue]
        refine height _ ?_ ?_
        · simp only [List.length_append, List.length_replicate]
          omega
        · intro g hg
          simp only [List.mem_append, List.mem_replicate] at hg
          rcases hg with (hg | ⟨-, rfl⟩) | hg
          · exact hfrontAll g hg
          · decide
          · exact hbackAll g hg
      case h_2 => cases h

theorem quad?_lt {cs : List Char} {value : Nat}
    (h : quad? cs = some value) : value < Word.size 32 := by
  unfold quad? at h
  split at h
  case h_1 hread =>
    injection h with h
    exact readQuad_lt (h ▸ hread)
  case h_2 => cases h

theorem groups?_lt {cs : List Char} {value : Nat}
    (h : groups? cs = some value) : value < Word.size 128 := by
  unfold groups? at h
  split at h
  case h_1 hread =>
    injection h with h
    exact readSix_lt (h ▸ hread)
  case h_2 => cases h

-- ============================================================= tokens

/-- An address is a network block. -/
def Address.IsBlock (a : Address) : Prop := ∃ b, a = .block b

theorem isBlock_of_isValid {a : Address} (h : a.isValid = true) :
    a.IsBlock := by
  cases a with
  | block b => exact ⟨b, rfl⟩
  | other t => cases h

/-- A block covers an address that fits its family, whole or mapped. -/
theorem isSome_covering? {family : Family} {value length : Nat}
    (hlength : length ≤ family.width) (hvalue : value < Word.size family.width)
    (hmapped : family = .v6 → isMapped (Block.clear family value length)
      = false) : (Block.covering? family value length).isSome = true := by
  unfold Block.covering?
  rw [dif_pos ⟨hlength, hvalue, hmapped⟩]
  rfl

/-- A host whose number fits its family is a block. -/
theorem isBlock_ofHost {family : Family} {value : Nat}
    (hvalue : value < Word.size family.width) :
    (Address.ofHost family value).IsBlock := by
  have hsome : (Block.host? family value).isSome = true := by
    unfold Block.host? Block.written?
    cases family with
    | v4 => exact isSome_covering? (Nat.le_refl _) hvalue nofun
    | v6 =>
        dsimp only
        split
        case isTrue =>
          rw [if_pos (by decide)]
          exact isSome_covering? (by decide)
            (Nat.mod_lt value (Word.size_pos 32)) nofun
        case isFalse hmapped =>
          -- all bits of a host are fixed, so nothing is cleared
          have hclear : Block.clear .v6 value Family.v6.width = value := by
            unfold Block.clear
            rw [Nat.sub_self, Word.size_zero, Nat.mod_one, Nat.sub_zero]
          refine isSome_covering? (Nat.le_refl _) hvalue fun _ => ?_
          rw [hclear]
          simpa [Family.width] using hmapped
  obtain ⟨b, hb⟩ := Option.isSome_iff_exists.1 hsome
  refine ⟨b, ?_⟩
  unfold Address.ofHost
  rw [hb]

/-- What is found inside a text is a block. -/
theorem isBlock_of_search {text : String} {a : Address}
    (h : search text = some a) : a.IsBlock := by
  unfold search at h
  split at h
  case h_1 value hquad =>
    injection h with h
    unfold searchQuad at hquad
    obtain ⟨run, -, hrun⟩ := List.exists_of_findSome?_eq_some hquad
    rw [← h]
    exact isBlock_ofHost (quad?_lt hrun)
  case h_2 =>
    obtain ⟨value, hsix, h⟩ := Option.map_eq_some_iff.1 h
    unfold searchSix at hsix
    obtain ⟨run, -, hrun⟩ := List.exists_of_findSome?_eq_some hsix
    rw [← h]
    exact isBlock_ofHost (groups?_lt hrun)

variable (text : String) (mode : UseDns) (names : Resolver)

theorem value_textToAddresses :
    (textToAddresses text mode names).value
      = (Token.read text mode names).addresses := by
  unfold textToAddresses
  simp only [Noted.value_bind, Noted.value_pure]

/-- A token is an address literal, or has one inside it, or is a name to
look up. -/
theorem Token.read_cases :
    (∃ a, a.IsBlock ∧ Token.read text mode names = .literal a)
      ∨ Token.read text mode names = .name (lookUp text mode names) := by
  unfold Token.read
  dsimp only
  split
  case isTrue hvalid => exact .inl ⟨_, isBlock_of_isValid hvalid, rfl⟩
  case isFalse =>
    split
    case h_1 found hfound => exact .inl ⟨_, isBlock_of_search hfound, rfl⟩
    case h_2 => exact .inr rfl

/-- Without names, a host token stands for blocks only. -/
theorem block_of_no_dns {text : String} {names : Resolver} {a : Address}
    (h : a ∈ (Token.read text .no names).addresses) : a.IsBlock := by
  rcases Token.read_cases text .no names with ⟨found, hblock, hread⟩ | hread
  · rw [hread] at h
    rw [List.mem_singleton.1 h]
    exact hblock
  · rw [hread] at h
    cases h

end Gatewatch.Net
