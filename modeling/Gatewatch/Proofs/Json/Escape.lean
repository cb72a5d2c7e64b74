/-
Texts of a document: what the writer escapes, the reader takes back.

A character is written as itself or as an escape, and the reader tells
which from the first character it sees (`escapeChar_cases`). So it reads
a written text character by character and stops at the closing quote,
the only quote that no backslash stands before (`readText_escape`).

For the same reason a pattern without quotes and backslashes, whose first
character is no part of an escape, occurs in a written text where it
occurs in the text itself (`shows_escape`).
-/
import Gatewatch.Json.Reader
import Gatewatch.Json.Writer
import Gatewatch.Proofs.Text.Occurs

namespace Gatewatch.Json

-- ========================================================= characters

/-- The character that an escape other than by number has behind its
backslash. -/
def Short (c e : Char) : Prop :=
  (c, e) ∈ [('"', '"'), ('\\', '\\'), ('\n', 'n'), ('\r', 'r'),
    ('\t', 't'), ('\x08', 'b'), ('\x0c', 'f')]

/-- How a character is written: by a letter behind a backslash, by its
number, or as itself. -/
theorem escapeChar_cases (c : Char) :
    (∃ e, Short c e ∧ escapeChar c = ['\\', e])
      ∨ (c.toNat < 32 ∧ escapeChar c = ['\\', 'u', '0', '0',
          hexDigit (c.toNat / 16), hexDigit (c.toNat % 16)])
      ∨ (c ≠ '"' ∧ c ≠ '\\' ∧ 32 ≤ c.toNat ∧ escapeChar c = [c]) := by
  unfold escapeChar Short
  by_cases h1 : c = '"'
  · exact Or.inl ⟨'"', by simp [h1], by rw [if_pos h1]⟩
  rw [if_neg h1]
  by_cases h2 : c = '\\'
  · exact Or.inl ⟨'\\', by simp [h2], by rw [if_pos h2]⟩
  rw [if_neg h2]
  by_cases h3 : c = '\n'
  · exact Or.inl ⟨'n', by simp [h3], by rw [if_pos h3]⟩
  rw [if_neg h3]
  by_cases h4 : c = '\r'
  · exact Or.inl ⟨'r', by simp [h4], by rw [if_pos h4]⟩
  rw [if_neg h4]
  by_cases h5 : c = '\t'
  · exact Or.inl ⟨'t', by simp [h5], by rw [if_pos h5]⟩
  rw [if_neg h5]
  by_cases h6 : c = '\x08'
  · exact Or.inl ⟨'b', by simp [h6], by rw [if_pos h6]⟩
  rw [if_neg h6]
  by_cases h7 : c = '\x0c'
  · exact Or.inl ⟨'f', by simp [h7], by rw [if_pos h7]⟩
  rw [if_neg h7]
  by_cases h8 : c.toNat < 32
  · exact Or.inr (Or.inl ⟨h8, if_pos h8⟩)
  · exact Or.inr (Or.inr ⟨h1, h2, Nat.le_of_not_lt h8, if_neg h8⟩)

/-- The reader knows the digits of the writer. -/
theorem hexValue?_hexDigit {n : Nat} (hn : n < 16) :
    hexValue? (hexDigit n) = some n := by
  revert n
  decide

/-- A control character is read back from its number. -/
theorem readUnicode_number {c : Char} (hc : c.toNat < 32)
    (rest : List Char) :
    readUnicode ('0' :: '0' :: hexDigit (c.toNat / 16)
      :: hexDigit (c.toNat % 16) :: rest) = some (c, rest) := by
  have hzero : hexValue? '0' = some 0 := by decide
  have hunit : readUnit ('0' :: '0' :: hexDigit (c.toNat / 16)
      :: hexDigit (c.toNat % 16) :: rest) = some (c.toNat, rest) := by
    simp only [readUnit, hzero, hexValue?_hexDigit (n := c.toNat / 16)
      (by omega), hexValue?_hexDigit (n := c.toNat % 16) (by omega),
      Option.bind_eq_bind, Option.bind_some]
    have hsum : ((0 * 16 + 0) * 16 + c.toNat / 16) * 16 + c.toNat % 16
        = c.toNat := by omega
    rw [hsum]
    rfl
  unfold readUnicode
  rw [hunit]
  show (if 0xDC00 ≤ c.toNat && c.toNat ≤ 0xDFFF then none
    else if 0xD800 ≤ c.toNat && c.toNat ≤ 0xDBFF then _
    else some (Char.ofNat c.toNat, rest)) = _
  rw [if_neg (by simp; omega), if_neg (by simp; omega),
    Char.ofNat_toNat]

/-- The reader takes back what stands behind a backslash. -/
theorem readEscape_short {c e : Char} (h : Short c e)
    (rest : List Char) : readEscape (e :: rest) = some (c, rest) := by
  unfold Short at h
  simp only [List.mem_cons, Prod.mk.injEq, List.not_mem_nil,
    or_false] at h
  rcases h with ⟨rfl, rfl⟩ | ⟨rfl, rfl⟩ | ⟨rfl, rfl⟩ | ⟨rfl, rfl⟩
    | ⟨rfl, rfl⟩ | ⟨rfl, rfl⟩ | ⟨rfl, rfl⟩ <;> rfl

-- ============================================================== texts

/-- One written character is read in one step. -/
theorem readText_step (c : Char) (fuel : Nat) (done rest : List Char) :
    readText (fuel + 1) done (escapeChar c ++ rest)
      = readText fuel (c :: done) rest := by
  rcases escapeChar_cases c with
    ⟨e, hshort, hc⟩ | ⟨hlow, hc⟩ | ⟨hquote, hslash, hhigh, hc⟩
  · rw [hc]
    show readText (fuel + 1) done ('\\' :: e :: rest) = _
    rw [readText, if_neg (by decide), if_pos rfl,
      readEscape_short hshort]
  · rw [hc]
    show readText (fuel + 1) done ('\\' :: 'u' :: '0' :: '0'
      :: hexDigit (c.toNat / 16) :: hexDigit (c.toNat % 16) :: rest) = _
    rw [readText, if_neg (by decide), if_pos rfl, readEscape,
      readUnicode_number hlow]
  · rw [hc]
    show readText (fuel + 1) done (c :: rest) = _
    rw [readText, if_neg hquote, if_neg hslash,
      if_neg (Nat.not_lt.2 hhigh)]

/-- A written text is read back up to its closing quote. -/
theorem readText_escape (cs : List Char) {fuel : Nat}
    (hfuel : cs.length < fuel) (done rest : List Char) :
    readText fuel done (cs.flatMap escapeChar ++ '"' :: rest)
      = some (String.ofList (done.reverse ++ cs), rest) := by
  induction cs generalizing fuel done with
  | nil =>
      cases fuel with
      | zero => cases hfuel
      | succ fuel =>
          show readText (fuel + 1) done ('"' :: rest) = _
          rw [readText, if_pos rfl, List.append_nil]
  | cons c cs ih =>
      cases fuel with
      | zero => cases hfuel
      | succ fuel =>
          rw [List.flatMap_cons, List.append_assoc, readText_step,
            ih (Nat.lt_of_succ_lt_succ hfuel), List.reverse_cons,
            List.append_assoc, List.singleton_append]

/-- A written text is no shorter than the text. -/
theorem length_le_escape (cs : List Char) :
    cs.length ≤ (cs.flatMap escapeChar).length := by
  induction cs with
  | nil => exact Nat.le_refl 0
  | cons c cs ih =>
      have hone : 1 ≤ (escapeChar c).length := by
        rcases escapeChar_cases c with
          ⟨e, -, h⟩ | ⟨-, h⟩ | ⟨-, -, -, h⟩ <;> rw [h] <;> simp
      rw [List.flatMap_cons, List.length_append, List.length_cons]
      omega

-- =========================================================== patterns

/-- The characters that an escape is made of. -/
def escapes : List Char :=
  ['"', '\\', 'n', 'r', 't', 'b', 'f', 'u', '0', '1', '2', '3', '4', '5',
    '6', '7', '8', '9', 'a', 'c', 'd', 'e']

/-- A character that is not written as itself is written in escapes. -/
theorem escapeChar_subset {c : Char} (h : escapeChar c ≠ [c]) :
    escapeChar c ⊆ escapes := by
  intro x hx
  rcases escapeChar_cases c with
    ⟨e, hshort, hc⟩ | ⟨hlow, hc⟩ | ⟨-, -, -, hc⟩
  · rw [hc] at hx
    unfold Short at hshort
    simp only [List.mem_cons, Prod.mk.injEq, List.not_mem_nil,
      or_false] at hshort hx
    rcases hx with rfl | rfl
    · decide
    · rcases hshort with ⟨-, rfl⟩ | ⟨-, rfl⟩ | ⟨-, rfl⟩ | ⟨-, rfl⟩
        | ⟨-, rfl⟩ | ⟨-, rfl⟩ | ⟨-, rfl⟩ <;> decide
  · rw [hc] at hx
    have hhex : ∀ n < 16, hexDigit n ∈ escapes := by decide
    simp only [List.mem_cons, List.not_mem_nil, or_false] at hx
    rcases hx with rfl | rfl | rfl | rfl | rfl | rfl
    · decide
    · decide
    · decide
    · decide
    · exact hhex _ (by omega)
    · exact hhex _ (by omega)
  · exact absurd hc h

/-- A character that is not written as itself is written with a
backslash in front. -/
theorem escapeChar_eq_cons {c : Char} (h : escapeChar c ≠ [c]) :
    ∃ rest, escapeChar c = '\\' :: rest := by
  rcases escapeChar_cases c with ⟨e, -, hc⟩ | ⟨-, hc⟩ | ⟨-, -, -, hc⟩
  · exact ⟨_, hc⟩
  · exact ⟨_, hc⟩
  · exact absurd hc h

/-- Escaping shows a pattern that needs none and starts with no
character of an escape. -/
theorem shows_escape {first : Char} {more : List Char}
    (hfirst : first ∉ escapes)
    (hself : ∀ c ∈ first :: more, escapeChar c = [c]) :
    Text.Shows escapeChar id first more := by
  refine ⟨?_, hself, ?_, ?_⟩
  · intro c
    by_cases hown : escapeChar c = [c]
    · rw [hown]
      exact List.cons_ne_nil c []
    · obtain ⟨rest, hrest⟩ := escapeChar_eq_cons hown
      rw [hrest]
      exact List.cons_ne_nil _ rest
  · intro x hx c rest hc
    by_cases hown : escapeChar c = [c]
    · rw [hown] at hc
      injection hc
    · -- no character of the pattern is a backslash
      obtain ⟨rest', hrest⟩ := escapeChar_eq_cons hown
      rw [hrest] at hc
      injection hc with hslash
      have hx' := hself x hx
      rw [← show '\\' = x from hslash] at hx'
      exact absurd hx' (by decide)
  · intro c hc
    by_cases hown : escapeChar c = [c]
    · rw [hown] at hc
      exact (List.mem_singleton.1 hc).symm
    · exact absurd (escapeChar_subset hown hc) hfirst

end Gatewatch.Json
