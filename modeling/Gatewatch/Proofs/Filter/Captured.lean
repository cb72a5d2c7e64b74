/-
Which address the host mark captures.

A pattern of plain text, the host mark and the end of the line is matched
by that text in front of any address (`captures_usualText`). The host is
the text of the address itself or, where the text begins with the lead of
an IPv4 address inside IPv6, what is behind the lead.

For an address that stands for an IPv4 address this is that address, and
the two are one. But the lead is taken for a lead by its characters
alone. An address of the second family that is written with them loses
what they say: what is left of it is no address, and the line counts for
nobody (`host_is_captured_unless_lead_is_lost`).
-/
import Gatewatch.Proofs.Filter.HostMatch
import Gatewatch.Proofs.Net.Bare

namespace Gatewatch.Filter.HostMark

open Pattern
open Net

-- ============================================================== shapes

/-- What may be written in a name, and at its end. -/
def IsNameChar (c : Char) : Prop :=
  nameSet.has c = true ∧ (CharSet.word true).has c = true ∧ c ≠ ':'

instance (c : Char) : Decidable (IsNameChar c) :=
  inferInstanceAs (Decidable (_ ∧ _ ∧ _))

/-- The digits of a number may be. -/
theorem isNameChar_toDigits {base : Nat} (hlow : 1 < base)
    (hhigh : base ≤ 16) (n : Nat) :
    ∀ c ∈ Nat.toDigits base n, IsNameChar c := by
  obtain ⟨ds, hds, hlt, -⟩ := exists_digits hlow n
  have hall : ∀ d < 16, IsNameChar (Nat.digitChar d) := by decide
  intro c hc
  rw [hds] at hc
  obtain ⟨d, hd, rfl⟩ := List.mem_map.1 hc
  exact hall d (Nat.lt_of_lt_of_le (hlt d hd) hhigh)

/-- A group of an address is written with at most four digits. -/
theorem fits_of_isPiece {p : List Char} (h : IsPiece p) : Fits p := by
  refine ⟨h.length_le, ?_⟩
  rcases h with rfl | ⟨g, -, rfl⟩
  · nofun
  · obtain ⟨ds, hds, hlt, -⟩ := exists_digits (by decide : 1 < 16) g
    have hall : ∀ d < 16, hexDigits.has (Nat.digitChar d) = true := by decide
    intro c hc
    rw [hds] at hc
    obtain ⟨d, hd, rfl⟩ := List.mem_map.1 hc
    exact hall d (hlt d hd)

/-- A text that ends in a number is taken for a name, if all of it may be
written in one. -/
theorem isHost_of_toDigits {front : List Char} {base n : Nat}
    (hlow : 1 < base) (hhigh : base ≤ 16) (hcolon : ':' ∉ front)
    (hname : ∀ c ∈ front, nameSet.has c = true) :
    IsHost (front ++ Nat.toDigits base n) := by
  have hdigits := isNameChar_toDigits hlow hhigh n
  rcases List.eq_nil_or_concat (Nat.toDigits base n) with hnil |
    ⟨digits, c, hlast⟩
  · exact absurd hnil Nat.toDigits_ne_nil
  · rw [List.concat_eq_append] at hlast
    rw [hlast] at hdigits ⊢
    rw [← List.append_assoc]
    refine isHost_of_name ?_ ?_ (hdigits c (by simp)).2.1
    · intro hmem
      rw [List.append_assoc, List.mem_append] at hmem
      rcases hmem with hmem | hmem
      · exact hcolon hmem
      · exact (hdigits _ hmem).2.2 rfl
    · intro x hx
      rw [List.append_assoc, List.mem_append] at hx
      rcases hx with hx | hx
      · exact hname x hx
      · exact (hdigits x hx).1

theorem colon_not_mem_quadText (value : Nat) :
    ':' ∉ (quadText value).toList := by
  have hcolon (n : Nat) : ':' ∉ Nat.toDigits 10 n := fun h =>
    (isNameChar_toDigits (by decide) (by decide) n ':' h).2.2 rfl
  rw [toList_quadText]
  simp [hcolon]

/-- An IPv4 address is taken for a name. -/
theorem isHost_quadText (value : Nat) : IsHost (quadText value).toList := by
  have hcolon := colon_not_mem_quadText value
  have hdot : nameSet.has '.' = true := by decide
  have hdigits (n : Nat) := isNameChar_toDigits (by decide : 1 < 10)
    (by decide) n
  -- all but the last number
  have hsplit : ∀ a b c d : List Char,
      a ++ '.' :: (b ++ '.' :: (c ++ '.' :: d))
        = (a ++ '.' :: (b ++ '.' :: (c ++ ['.']))) ++ d := by simp
  rw [toList_quadText, hsplit] at hcolon ⊢
  refine isHost_of_toDigits (by decide) (by decide)
    (fun h => hcolon (List.mem_append_left _ h)) fun c hc => ?_
  · simp only [List.mem_append, List.mem_cons, List.not_mem_nil,
      or_false] at hc
    rcases hc with hc | rfl | hc | rfl | hc | rfl
    · exact (hdigits _ c hc).1
    · exact hdot
    · exact (hdigits _ c hc).1
    · exact hdot
    · exact (hdigits _ c hc).1
    · exact hdot

/-- Three groups or more are taken for an address, and one for a name. -/
theorem isHost_joinGroups {groups : List Nat}
    (hall : ∀ g ∈ groups, g < 65536) (hlow : 1 ≤ groups.length)
    (htwo : groups.length ≠ 2) (hhigh : groups.length ≤ 8) :
    IsHost (joinGroups groups).toList := by
  cases groups with
  | nil => cases hlow
  | cons g groups =>
      rw [toList_joinGroups]
      cases groups with
      | nil =>
          show IsHost (Nat.toDigits 16 g ++ [])
          rw [List.append_nil, ← List.nil_append (Nat.toDigits 16 g)]
          exact isHost_of_toDigits (by decide) (by decide) nofun nofun
      | cons m groups =>
          rw [groupsTail_eq_rowsText]
          simp only [List.length_cons] at htwo hhigh
          refine isHost_of_six ?_ ?_ ?_
          · intro q hq
            rw [← List.map_cons] at hq
            obtain ⟨x, hx, rfl⟩ := List.mem_map.1 hq
            exact fits_of_isPiece (.inr ⟨x, hall x hx, rfl⟩)
          · rw [List.length_map, List.length_cons]
            omega
          · rw [List.length_map, List.length_cons]
            omega

/-- An IPv4 address is captured as it is. -/
theorem captures_quadText (value : Nat) :
    Captures (quadText value).toList (quadText value).toList := by
  refine captures_all (isHost_quadText value) fun n rest _ h => ?_
  exact colon_not_mem_quadText value (h ▸ List.mem_cons_self)

/-- An IPv6 address is captured as it is when it is not written with the
lead. -/
theorem captures_groupsText {value : Nat}
    (h : ¬ mappedLeadText.toList <+: (groupsText value).toList) :
    Captures (groupsText value).toList (groupsText value).toList := by
  refine captures_all ?_ fun n rest hn heq => h (lead_of_letters hn heq)
  obtain ⟨rows, hrows, hlow, hhigh, hpieces⟩ := exists_rows value
  cases rows with
  | nil => cases hlow
  | cons p rows =>
      have htext : (groupsText value).toList = p ++ rowsText rows := by
        rw [rowsText_cons, List.cons_append] at hrows
        injection hrows
      rw [List.length_cons] at hlow hhigh
      rw [htext]
      exact isHost_of_six (fun q hq => fits_of_isPiece (hpieces q hq))
        (by omega) (by omega)

/-- The text of an address is captured as the text of that address, unless
its lead is lost: then groups of it are left. -/
theorem captures_usualText {family : Family} {value : Nat}
    (h : value < Word.size family.width) :
    if LosesLead family value then
      ∃ groups : List Nat, groups.length < 8
        ∧ Captures (usualText family value).toList
          (joinGroups groups).toList
    else Captures (usualText family value).toList
      (Address.ofHost family value).text.toList := by
  have hlead : mappedLeadText.toList = leadText := rfl
  have hother : ¬ Family.v4 = Family.v6 := by decide
  cases family with
  | v4 =>
      have hkeeps : ¬ LosesLead .v4 value := fun hloses => hother hloses.1
      rw [if_neg hkeeps, text_ofHost h fun h => absurd h hother]
      exact captures_quadText value
  | v6 =>
      by_cases hmapped : isMapped value = true
      · have hkeeps : ¬ LosesLead .v6 value := fun hloses =>
          Bool.false_ne_true (hloses.2.1.symm.trans hmapped)
        have hmod : value % Word.size 32 < Word.size Family.v4.width :=
          Nat.mod_lt value (Word.size_pos 32)
        rw [if_neg hkeeps, usualText_of_isMapped hmapped,
          ofHost_of_isMapped hmapped,
          text_ofHost hmod fun h => absurd h hother,
          String.toList_append, hlead]
        exact captures_lead (isHost_quadText _)
      · rw [Bool.not_eq_true] at hmapped
        rw [usualText_of_unmapped hmapped]
        by_cases hbegins : mappedLeadText.toList <+: (groupsText value).toList
        · obtain ⟨groups, htext, hlow, hhigh, htwo, hall⟩ :=
            exists_groups_of_lead h hmapped hbegins
          have hloses : LosesLead .v6 value := ⟨rfl, hmapped, hbegins⟩
          rw [if_pos hloses, htext, hlead]
          exact ⟨groups, by omega,
            captures_lead (isHost_joinGroups hall hlow htwo (by omega))⟩
        · have hkeeps : ¬ LosesLead .v6 value := fun h => hbegins h.2.2
          rw [if_neg hkeeps, text_ofHost h fun _ => hmapped]
          exact captures_groupsText hbegins

-- ========================================================= the captured

/-- A failure pattern of plain text, the host mark and the end of the line
matches that text in front of any address. What it captures stands for
just that address, unless the address is written with the lead of an IPv4
address and is none: then it stands for nothing. -/
theorem host_is_captured_unless_lead_is_lost {lead : String}
    (hlead : ∀ c ∈ lead.toList, c ∉ specialChars)
    (hmark : ¬ hostMark.toList <:+: lead.toList) {p : Patterns}
    (hp : Patterns.addFail {} (lead ++ hostMark ++ "$") = .ok p)
    {family : Family} {value : Nat}
    (hvalue : value < Word.size family.width) (names : Resolver) :
    ∃ f, p.findFailure (lead ++ usualText family value).toList = some f
      ∧ f.index = 0
      ∧ f.span = ⟨0, Text.width (lead ++ usualText family value).toList⟩
      ∧ (textToAddresses f.host .no names).value
        = if LosesLead family value then []
          else [Address.ofHost family value] := by
  obtain rfl : p = { fail := [pattern lead] } := by
    have hadd := (addFail_lineOf hlead hmark).symm.trans hp
    split at hadd
    case isTrue => injection hadd with hadd; exact hadd.symm
    case isFalse => cases hadd
  have hcaptures := captures_usualText hvalue
  rw [String.toList_append]
  by_cases hloses : LosesLead family value
  · rw [if_pos hloses] at hcaptures ⊢
    obtain ⟨groups, hlength, hcaptures⟩ := hcaptures
    refine ⟨_, findFailure_pattern hcaptures [], rfl, rfl, ?_⟩
    rw [String.ofList_toList]
    exact addresses_joinGroups hlength names
  · rw [if_neg hloses] at hcaptures ⊢
    refine ⟨_, findFailure_pattern hcaptures [], rfl, rfl, ?_⟩
    rw [String.ofList_toList]
    exact addresses_text_ofHost hvalue .no names

/-- The text of the first address of a documentation net, behind a word. -/
theorem documentation_host_is_captured :
    (∀ c ∈ "from ".toList, c ∉ specialChars)
      ∧ ¬ hostMark.toList <:+: "from ".toList
      ∧ ∃ p, Patterns.addFail {} ("from " ++ hostMark ++ "$") = .ok p
        ∧ ∃ f, p.findFailure "from 2001:db8::1".toList = some f
          ∧ (textToAddresses f.host .no).value
            = [Address.ofHost .v6 42540766411282592856903984951653826561] := by
  have hlead : ∀ c ∈ "from ".toList, c ∉ specialChars := by
    simp [specialChars]
  have hmark : ¬ hostMark.toList <:+: "from ".toList := fun h =>
    absurd h.length_le (by decide)
  have hadd := addFail_lineOf hlead hmark
  rw [if_pos (by decide)] at hadd
  have hvalue : 42540766411282592856903984951653826561
      < Word.size Family.v6.width := by decide
  obtain ⟨f, hf, -, -, haddresses⟩ :=
    host_is_captured_unless_lead_is_lost hlead hmark hadd hvalue numericHosts
  have hkeeps : ¬ LosesLead .v6 42540766411282592856903984951653826561 := by
    decide +kernel
  have htext : ("from "
      ++ usualText .v6 42540766411282592856903984951653826561).toList
        = "from 2001:db8::1".toList := by
    decide +kernel
  rw [if_neg hkeeps] at haddresses
  rw [htext] at hf
  exact ⟨hlead, hmark, _, hadd, f, hf, haddresses⟩

/-- The lead is taken off an address that has only its characters, and the
number that is left is no address. -/
theorem lead_of_host_is_lost :
    usualText .v6 4294901761 = "::ffff:1"
      ∧ ∃ p, Patterns.addFail {} ("from " ++ hostMark ++ "$") = .ok p
        ∧ ∃ f, p.findFailure "from ::ffff:1".toList = some f
          ∧ (textToAddresses f.host .no).value
            ≠ [Address.ofHost .v6 4294901761] := by
  have htext : usualText .v6 4294901761 = "::ffff:1" := by decide +kernel
  have hlead : ∀ c ∈ "from ".toList, c ∉ specialChars := by
    simp [specialChars]
  have hadd := addFail_lineOf hlead fun h => absurd h.length_le (by decide)
  rw [if_pos (by decide)] at hadd
  have hloses : LosesLead .v6 4294901761 := by decide +kernel
  have hcaptures := captures_usualText
    (by decide : 4294901761 < Word.size Family.v6.width)
  rw [if_pos hloses, htext] at hcaptures
  obtain ⟨groups, hlength, hcaptures⟩ := hcaptures
  refine ⟨htext, _, hadd, _, findFailure_pattern hcaptures [], ?_⟩
  rw [String.ofList_toList, addresses_joinGroups hlength]
  nofun

end Gatewatch.Filter.HostMark
