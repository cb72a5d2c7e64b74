/-
The text of an address is read back as the address.

# One form

An address is a block or a text that writes none, and reading makes one
choice between the forms a block can be written in: bits behind the
length are cleared, and what stands for an IPv4 address becomes one. A
block carries the outcome in its invariants. So when the usual form of a
block is read, its base has nothing to clear (`covering?_self`) and is
not taken for the base of another family (`written?_self`), and what was
one family stays it.

# What follows

The text decides which address it is, and equal addresses have equal
texts, so the texts tell addresses apart exactly as the addresses do
(`text_tells_addresses_apart`). So do the parts that are hashed
(`eq_iff_hash_eq`).
-/
import Gatewatch.Net.Address
import Gatewatch.Proofs.Net.Literal
import Gatewatch.Proofs.Text.Numeral

namespace Gatewatch.Text

-- =============================================================== trimming

/-- There is nothing to take off in front of a character that is no
blank. -/
theorem trimStartChars_of_head {cs : List Char}
    (h : ∀ c ∈ cs.head?, Unicode.isBlank c = false) :
    trimStartChars cs = cs := by
  cases cs with
  | nil => rfl
  | cons c cs =>
      exact List.dropWhile_cons_of_neg (by rw [h c rfl]; nofun)

/-- No blank is in front of what is left. -/
theorem head_trimStartChars (cs : List Char) :
    ∀ c ∈ (trimStartChars cs).head?, Unicode.isBlank c = false := by
  induction cs with
  | nil => nofun
  | cons c cs ih =>
      unfold trimStartChars at ih ⊢
      rw [List.dropWhile_cons]
      split
      case isTrue => exact ih
      case isFalse hc =>
        intro x hx
        injection hx with hx
        rw [← hx]
        exact Bool.eq_false_iff.2 hc

/-- To trim what is trimmed changes nothing. -/
theorem trim_trim (s : String) : trim (trim s) = trim s := by
  unfold trim
  rw [String.toList_ofList]
  generalize hstart : trimStartChars s.toList = start
  have hhead := head_trimStartChars s.toList
  rw [hstart] at hhead
  -- what is left begins like what was left before the end was trimmed
  have hprefix : trimEndChars start <+: start := by
    unfold trimEndChars
    rw [← List.reverse_suffix, List.reverse_reverse]
    exact List.dropWhile_suffix _
  have hkept : ∀ c ∈ (trimEndChars start).head?,
      Unicode.isBlank c = false := by
    intro c hc
    obtain ⟨more, hmore⟩ := hprefix
    refine hhead c ?_
    rw [← hmore, List.head?_append, hc]
    rfl
  rw [trimStartChars_of_head hkept]
  unfold trimEndChars
  rw [List.reverse_reverse,
    trimStartChars_of_head (head_trimStartChars start.reverse)]

/-- A text without blanks is trimmed already. -/
theorem trim_of_no_blank {s : String}
    (h : ∀ c ∈ s.toList, Unicode.isBlank c = false) : trim s = s := by
  have hstart : trimStartChars s.toList = s.toList :=
    trimStartChars_of_head fun c hc => h c (List.mem_of_mem_head? hc)
  have hend : trimEndChars s.toList = s.toList := by
    unfold trimEndChars
    rw [trimStartChars_of_head fun c hc =>
      h c (List.mem_reverse.1 (List.mem_of_mem_head? hc)),
      List.reverse_reverse]
  unfold trim
  rw [hstart, hend, String.ofList_toList]

end Gatewatch.Text

namespace Gatewatch.Net

-- ======================================================= the characters

/-- The characters of a literal. -/
def literalChars : List Char := "0123456789abcdef.:".toList

theorem mem_literalChars_of_digit {base n : Nat} (hlow : 1 < base)
    (hhigh : base ≤ 16) : ∀ c ∈ Nat.toDigits base n, c ∈ literalChars := by
  obtain ⟨ds, hds, hlt, -⟩ := exists_digits hlow n
  have hall : ∀ d < 16, Nat.digitChar d ∈ literalChars := by decide
  intro c hc
  rw [hds] at hc
  obtain ⟨d, hd, rfl⟩ := List.mem_map.1 hc
  exact hall d (Nat.lt_of_lt_of_le (hlt d hd) hhigh)

theorem mem_literalChars_of_joinGroups (groups : List Nat) :
    ∀ c ∈ (joinGroups groups).toList, c ∈ literalChars := by
  cases groups with
  | nil => nofun
  | cons g groups =>
      intro c hc
      rw [toList_joinGroups] at hc
      rcases List.mem_append.1 hc with hc | hc
      · exact mem_literalChars_of_digit (by decide) (by decide) c hc
      · obtain ⟨g', -, hc⟩ := List.mem_flatMap.1 hc
        rcases List.mem_cons.1 hc with rfl | hc
        · decide
        · exact mem_literalChars_of_digit (by decide) (by decide) c hc

/-- The usual form of an address is made of these. -/
theorem mem_literalChars (family : Family) (value : Nat) :
    ∀ c ∈ (literalText family value).toList, c ∈ literalChars := by
  have hdot : '.' ∈ literalChars := by decide
  have hcolon : ':' ∈ literalChars := by decide
  have hgap : ∀ c ∈ "::".toList, c ∈ literalChars := by simpa using hcolon
  have hdigit (n : Nat) : ∀ c ∈ Nat.toDigits 10 n, c ∈ literalChars :=
    mem_literalChars_of_digit (by decide) (by decide)
  unfold literalText
  cases family with
  | v4 =>
      dsimp only
      rw [toList_quadText]
      intro c hc
      simp only [List.mem_append, List.mem_cons] at hc
      rcases hc with hc | rfl | hc | rfl | hc | rfl | hc
      · exact hdigit _ c hc
      · exact hdot
      · exact hdigit _ c hc
      · exact hdot
      · exact hdigit _ c hc
      · exact hdot
      · exact hdigit _ c hc
  | v6 =>
      dsimp only
      unfold groupsText
      dsimp only
      split
      · intro c hc
        rw [String.toList_append, String.toList_append] at hc
        rcases List.mem_append.1 hc with hc | hc
        · rcases List.mem_append.1 hc with hc | hc
          · exact mem_literalChars_of_joinGroups _ c hc
          · exact hgap c hc
        · exact mem_literalChars_of_joinGroups _ c hc
      · exact mem_literalChars_of_joinGroups _

namespace Block

/-- The text of a block has no blanks. -/
theorem no_blank_in_text (b : Block) :
    ∀ c ∈ b.text.toList, Unicode.isBlank c = false := by
  have hall : literalChars.all (!Unicode.isBlank ·) = true := by decide
  have hliteral : ∀ c ∈ literalChars, Unicode.isBlank c = false := by
    simpa using hall
  have hslash : ∀ c ∈ "/".toList, Unicode.isBlank c = false := by
    simpa using (by decide : Unicode.isBlank '/' = false)
  have hhost := mem_literalChars b.family b.base
  intro c hc
  unfold text cidrText at hc
  split at hc
  · exact hliteral c (hhost c hc)
  · rw [String.toList_append, String.toList_append] at hc
    rcases List.mem_append.1 hc with hc | hc
    · rcases List.mem_append.1 hc with hc | hc
      · exact hliteral c (hhost c hc)
      · exact hslash c hc
    · have hdigits : c ∈ Nat.toDigits 10 b.length := by
        have htext : (toString b.length).toList = _ := Nat.toList_repr
        rwa [htext] at hc
      exact hliteral c
        (mem_literalChars_of_digit (by decide) (by decide) c hdigits)

-- ============================================================== the block

/-- The base of a block has no bits behind the length. -/
theorem covering?_self (b : Block) :
    covering? b.family b.base b.length = some b := by
  have hclear : clear b.family b.base b.length = b.base := by
    unfold clear
    rw [b.aligned, Nat.sub_zero]
  have hunmapped : b.family = .v6 →
      isMapped (clear b.family b.base b.length) = false := by
    rw [hclear]
    exact b.unmapped
  unfold covering?
  rw [dif_pos ⟨b.length_le, b.base_lt, hunmapped⟩]
  cases b
  simp only [Option.some.injEq, Block.mk.injEq, true_and, and_true]
  exact hclear

/-- A block is of the family that its base is written in. -/
theorem written?_self (b : Block) :
    written? b.family b.base b.length = some b := by
  unfold written?
  split
  case h_1 hfamily => rw [← hfamily, covering?_self]
  case h_2 hfamily =>
    rw [b.unmapped hfamily, Bool.false_and, if_neg Bool.false_ne_true,
      ← hfamily, covering?_self]

/-- A length is read from its digits. -/
theorem byteNumber?_toDigits {n : Nat} (h : n < 256) :
    byteNumber? (Nat.toDigits 10 n) = some n := by
  have hlead : ofDigits 10 (leadingDigits 10 (Nat.toDigits 10 n)) = n := by
    obtain ⟨ds, hds, hlt, hvalue, -⟩ := exists_digits (by decide : 1 < 10) n
    have hdigits := leadingDigits_append (by decide) hlt (noDigit_nil 10)
    rw [List.append_nil, ← hds] at hdigits
    rw [hdigits, hvalue]
  have hsome : (Nat.toDigits 10 n).isEmpty = false :=
    List.isEmpty_eq_false_iff.2 Nat.toDigits_ne_nil
  have hall : (Nat.toDigits 10 n).all Char.isDigit = true :=
    List.all_eq_true.2 (Json.isDigit_toDigits n)
  unfold byteNumber?
  split
  case h_1 rest hplus =>
    exact absurd hplus (Text.head_toDigits_ne rfl n rest)
  case h_2 =>
    dsimp only
    rw [hsome, hall, hlead]
    show (some n).filter (· < 256) = some n
    rw [Option.filter_some, if_pos (decide_eq_true h)]

/-- A block is read from its text. -/
theorem read?_text (b : Block) : read? b.text.toList = some b := by
  have hhost := mem_literalChars b.family b.base
  generalize hliteral : (literalText b.family b.base).toList = host at hhost
  have hread : literal? (unbracket host) = some (b.family, b.base) := by
    have hplain : unbracket host = host := by
      unfold unbracket
      split
      · exact absurd (hhost _ List.mem_cons_self) (by decide)
      · rfl
    rw [hplain, ← hliteral, literal?_literalText b.base_lt]
  have hslash : ∀ c ∈ host, (c != '/') = true := by
    have hall : literalChars.all (· != '/') = true := by decide
    exact fun c hc => List.all_eq_true.1 hall c (hhost c hc)
  unfold text cidrText
  split
  case isTrue hwidth =>
    have htake : (host ++ []).takeWhile (· != '/') = host := by
      rw [List.takeWhile_append_of_pos hslash]
      exact List.append_nil host
    rw [List.append_nil] at htake
    have hlength : b.length = b.family.width := beq_iff_eq.1 hwidth
    unfold read?
    simp only [hliteral, htake, hread, List.drop_length,
      Option.bind_eq_bind, Option.bind_some]
    unfold host?
    rw [← hlength, written?_self]
  case isFalse =>
    have htext : (literalText b.family b.base ++ "/"
        ++ toString b.length).toList
        = host ++ '/' :: Nat.toDigits 10 b.length := by
      have hdigits : (toString b.length).toList = Nat.toDigits 10 b.length :=
        Nat.toList_repr
      rw [String.toList_append, String.toList_append, hliteral, hdigits,
        List.append_assoc]
      rfl
    have htake : (host ++ '/' :: Nat.toDigits 10 b.length).takeWhile
        (· != '/') = host := by
      rw [List.takeWhile_append_of_pos hslash,
        List.takeWhile_cons_of_neg (by decide), List.append_nil]
    have hsmall : b.length < 256 := by
      have hwidth : ∀ f : Family, f.width < 256 := by
        intro f
        cases f <;> decide
      exact Nat.lt_of_le_of_lt b.length_le (hwidth b.family)
    unfold read?
    rw [htext]
    simp only [htake, hread, List.drop_left, Option.bind_eq_bind,
      Option.bind_some, byteNumber?_toDigits hsmall, written?_self]

end Block

-- ============================================================ the address

namespace Address

/-- An address is what is read of its trimmed text. -/
theorem parse_eq_block {t : String} {b : Block}
    (h : Block.read? (Text.trim t).toList = some b) : parse t = block b := by
  unfold parse
  dsimp only
  rw [h]

theorem parse_eq_other {t : String}
    (h : Block.read? (Text.trim t).toList = none) :
    parse t = other (Text.trim t) := by
  unfold parse
  dsimp only
  rw [h]

/-- A block is read from its text, as an address. -/
theorem parse_text_block (b : Block) : parse b.text = block b := by
  refine parse_eq_block ?_
  rw [Text.trim_of_no_blank b.no_blank_in_text, b.read?_text]

/-- An address that a text gives, or that is a host of either family. -/
inductive Given : Address → Prop where
  | parsed (t : String) : Given (parse t)
  | host {family : Family} {value : Nat} (h : value < Word.size family.width) :
    Given (ofHost family value)

/-- The text of an address is read as the address. -/
theorem Given.parse_text {a : Address} (h : a.Given) :
    parse a.text = a := by
  cases h with
  | host hvalue =>
      obtain ⟨b, hb⟩ := isBlock_ofHost hvalue
      rw [hb]
      exact parse_text_block b
  | parsed t =>
      cases hread : Block.read? (Text.trim t).toList with
      | some b =>
          rw [parse_eq_block hread]
          exact parse_text_block b
      | none =>
          -- what is trimmed already is read to the same end
          rw [parse_eq_other hread]
          show parse (Text.trim t) = _
          rw [← Text.trim_trim t] at hread
          rw [parse_eq_other hread, Text.trim_trim]

/-- Keeps all that is hashed. -/
def recorder : Hasher (List (Option Family ⊕ Option Nat ⊕ Nat ⊕ String)) where
  family s f := s ++ [.inl f]
  number s n := s ++ [.inr (.inl n)]
  length s n := s ++ [.inr (.inr (.inl n))]
  text s t := s ++ [.inr (.inr (.inr t))]

/-- A block is told by its family, base and length. -/
theorem block_inj {b c : Block} (hfamily : b.family = c.family)
    (hbase : b.base = c.base) (hlength : b.length = c.length) : b = c := by
  cases b
  cases c
  cases hfamily
  cases hbase
  cases hlength
  rfl

/-- What is hashed tells addresses apart as they are. -/
theorem eq_iff_hash_eq (a b : Address) :
    a = b ↔ ∀ (σ : Type) (h : Hasher σ) (s : σ), a.hash h s = b.hash h s := by
  constructor
  · rintro rfl σ h s
    rfl
  · intro hall
    have hparts := hall _ recorder []
    cases a <;> cases b <;> simp [hash, recorder] at hparts
    case block b c =>
      rw [block_inj hparts.1 hparts.2.1 hparts.2.2]
    case other t u => rw [hparts]

/-- The text of an address is read as it; and two addresses are equal
exactly when their texts are, and exactly when all that is hashed of them
comes to the same. -/
theorem text_tells_addresses_apart {a b : Address} (ha : a.Given)
    (hb : b.Given) :
    parse a.text = a
    ∧ (a = b ↔ a.text = b.text)
    ∧ (a.text = b.text
      ↔ ∀ (σ : Type) (h : Hasher σ) (s : σ), a.hash h s = b.hash h s) := by
  have htext : a = b ↔ a.text = b.text := by
    constructor
    · exact fun h => congrArg text h
    · intro h
      rw [← ha.parse_text, ← hb.parse_text, h]
  exact ⟨ha.parse_text, htext, htext.symm.trans (eq_iff_hash_eq a b)⟩

/-- A block inside the mapped addresses is a block of IPv4, and one
around them is not; a host is read back. -/
theorem mapped_forms_are_told_apart :
    parse " [::FFFF:1.2.3.9]/120" = parse "1.2.3.0/24"
    ∧ parse "::ffff:1.2.3.4/95" ≠ parse "1.2.3.4/0"
    ∧ parse (ofHost .v6 1).text = ofHost .v6 1 := by
  refine ⟨?_, ?_, ?_⟩
  · exact (text_tells_addresses_apart (.parsed _) (.parsed _)).2.1.2
      (by decide +kernel)
  · intro h
    have htext := (text_tells_addresses_apart (.parsed _) (.parsed _)).2.1.1 h
    exact absurd htext (by decide +kernel)
  · exact (text_tells_addresses_apart (.host (by decide)) (.parsed "")).1

end Address

end Gatewatch.Net
