/-
What bytes spell in an encoding, told without its decoding.

# UTF-8

A text is spelled by the encodings of its characters, one behind the
other. Where none of them stands the bytes are malformed, and one
replacement character stands for the longest stretch of them with which
some encoding begins, or for one byte if there is none (`Utf8.Spells`).

# The decoder

The decoder looks at a first byte, which tells how many more there have
to be and within which bounds (`Utf8.Follows`). Just the bytes that keep
to that are the encoding of a character of several bytes
(`Utf8.encode_of_follows`, `Utf8.follows_of_encode`), so where the decoder
stops no encoding goes on (`Utf8.follow_cases`).

# Other encodings

In a single-byte encoding every byte stands for a character by itself
(`Decoding.Stands`). What bytes spell in the others is for their decoders
to tell.
-/
import Gatewatch.Text.Charset
import Mathlib.Data.List.Forall2

namespace Gatewatch.Text

namespace Utf8

-- =========================================================== spelling

/-- Whether the encoding of some character begins with some bytes. -/
def Begins (bytes : List UInt8) : Prop :=
  ∃ c, bytes <+: String.utf8EncodeChar c

/-- Bytes in front of others that count as one malformed unit: no
character is encoded there, and they are the longest stretch with which
the encoding of one begins, or a single byte. -/
structure Malformed (bad rest : List UInt8) : Prop where
  ne_nil : bad ≠ []
  encodes_none : ∀ c, ¬ String.utf8EncodeChar c <+: bad ++ rest
  begins : bad.length = 1 ∨ Begins bad
  longest : ∀ b more, rest = b :: more → ¬ Begins (bad ++ [b])

/-- What bytes spell. -/
inductive Spells : List UInt8 → List Char → Prop
  | nil : Spells [] []
  | char (c : Char) {rest : List UInt8} {text : List Char}
      (h : Spells rest text) :
      Spells (String.utf8EncodeChar c ++ rest) (c :: text)
  | malformed {bad rest : List UInt8} {text : List Char}
      (hbad : Malformed bad rest) (h : Spells rest text) :
      Spells (bad ++ rest) (replacement :: text)

-- ======================================================== first bytes

/-- What the first bytes of characters of several bytes demand. -/
theorem lead?_eq_some_iff {b : UInt8} {l : Lead} : lead? b = some l ↔
    (0xC2 ≤ b.toNat ∧ b.toNat ≤ 0xDF
      ∧ l = ⟨1, 0x80, 0xBF, b.toNat - 0xC0⟩)
    ∨ (b.toNat = 0xE0 ∧ l = ⟨2, 0xA0, 0xBF, 0⟩)
    ∨ (b.toNat = 0xED ∧ l = ⟨2, 0x80, 0x9F, 13⟩)
    ∨ (0xE1 ≤ b.toNat ∧ b.toNat ≤ 0xEF ∧ b.toNat ≠ 0xED
      ∧ l = ⟨2, 0x80, 0xBF, b.toNat - 0xE0⟩)
    ∨ (b.toNat = 0xF0 ∧ l = ⟨3, 0x90, 0xBF, 0⟩)
    ∨ (b.toNat = 0xF4 ∧ l = ⟨3, 0x80, 0x8F, 4⟩)
    ∨ (0xF1 ≤ b.toNat ∧ b.toNat ≤ 0xF3
      ∧ l = ⟨3, 0x80, 0xBF, b.toNat - 0xF0⟩) := by
  unfold lead?
  simp only [UInt8.le_iff_toNat_le, beq_iff_eq, Bool.and_eq_true,
    decide_eq_true_eq, ← UInt8.toNat_inj, UInt8.reduceToNat]
  generalize b.toNat = n
  constructor
  · intro h
    repeat' split at h
    all_goals simp at h <;> subst h <;> simp <;> omega
  · rintro (⟨h1, h2, rfl⟩ | ⟨hn, rfl⟩ | ⟨hn, rfl⟩ | ⟨h1, h2, h3, rfl⟩
      | ⟨hn, rfl⟩ | ⟨hn, rfl⟩ | ⟨h1, h2, rfl⟩)
    all_goals simp (disch := omega) only [if_pos, if_neg]

/-- The bytes behind a first byte: as many as it demands, the first of
them within the bounds that it sets. -/
inductive Follows : Nat → UInt8 → UInt8 → List UInt8 → Prop
  | nil {low high : UInt8} : Follows 0 low high []
  | cons {n : Nat} {low high b : UInt8} {rest : List UInt8} (hlow : low ≤ b)
      (hhigh : b ≤ high) (h : Follows n 0x80 0xBF rest) :
      Follows (n + 1) low high (b :: rest)

/-- The number that the bytes behind a first byte make up with its
bits. -/
def value (bits : Nat) (tail : List UInt8) : Nat :=
  tail.foldl (fun bits b => bits * 64 + (b.toNat - 0x80)) bits

theorem value_cons (bits : Nat) (b : UInt8) (tail : List UInt8) :
    value bits (b :: tail) = value (bits * 64 + (b.toNat - 0x80)) tail := by
  unfold value
  rw [List.foldl_cons]

/-- One byte at least follows where one is demanded. -/
theorem Follows.exists_cons {n : Nat} {low high : UInt8}
    {tail : List UInt8} (h : Follows (n + 1) low high tail) :
    ∃ b rest, tail = b :: rest ∧ low.toNat ≤ b.toNat
      ∧ b.toNat ≤ high.toNat ∧ Follows n 0x80 0xBF rest := by
  cases h with
  | cons hlow hhigh h => exact ⟨_, _, rfl, hlow, hhigh, h⟩

-- =========================================================== encodings

section Encodings

variable {v : Nat} {b x y z : UInt8}

/-- The number of the character of a number. -/
theorem toNat_ofNat (h : v.isValidChar) : (Char.ofNat v).val.toNat = v := by
  unfold Char.ofNat
  rw [dif_pos h]
  rfl

/-- A character of two bytes, by its number. -/
theorem encode_two (hlow : 0x80 ≤ v) (hhigh : v < 0x800)
    (hb : b.toNat = 0xC0 + v / 64) (hx : x.toNat = 0x80 + v % 64) :
    String.utf8EncodeChar (Char.ofNat v) = [b, x] := by
  unfold String.utf8EncodeChar
  simp only [toNat_ofNat (v := v) (.inl (by omega))]
  rw [if_neg (by omega), if_pos (by omega)]
  simp only [List.cons.injEq, and_true, ← UInt8.toNat_inj,
    UInt8.toNat_ofNat']
  omega

/-- A character of three bytes, by its number. -/
theorem encode_three (hlow : 0x800 ≤ v) (hhigh : v < 0x10000)
    (hvalid : v.isValidChar) (hb : b.toNat = 0xE0 + v / 4096)
    (hx : x.toNat = 0x80 + v / 64 % 64) (hy : y.toNat = 0x80 + v % 64) :
    String.utf8EncodeChar (Char.ofNat v) = [b, x, y] := by
  unfold String.utf8EncodeChar
  simp only [toNat_ofNat hvalid]
  rw [if_neg (by omega), if_neg (by omega), if_pos (by omega)]
  simp only [List.cons.injEq, and_true, ← UInt8.toNat_inj,
    UInt8.toNat_ofNat']
  omega

/-- A character of four bytes, by its number. -/
theorem encode_four (hlow : 0x10000 ≤ v) (hhigh : v < 0x110000)
    (hb : b.toNat = 0xF0 + v / 262144)
    (hx : x.toNat = 0x80 + v / 4096 % 64)
    (hy : y.toNat = 0x80 + v / 64 % 64) (hz : z.toNat = 0x80 + v % 64) :
    String.utf8EncodeChar (Char.ofNat v) = [b, x, y, z] := by
  unfold String.utf8EncodeChar
  simp only [toNat_ofNat (v := v) (.inr ⟨by omega, hhigh⟩)]
  rw [if_neg (by omega), if_neg (by omega), if_neg (by omega)]
  simp only [List.cons.injEq, and_true, ← UInt8.toNat_inj,
    UInt8.toNat_ofNat']
  omega

end Encodings

/-- The bytes that keep to what a first byte demands are the encoding of a
character. -/
theorem encode_of_follows {b : UInt8} {l : Lead} {tail : List UInt8}
    (hlead : lead? b = some l) (h : Follows l.more l.low l.high tail) :
    String.utf8EncodeChar (Char.ofNat (value l.bits tail)) = b :: tail := by
  rcases lead?_eq_some_iff.1 hlead with ⟨h1, h2, rfl⟩ | ⟨hb, rfl⟩
    | ⟨hb, rfl⟩ | ⟨h1, h2, hne, rfl⟩ | ⟨hb, rfl⟩ | ⟨hb, rfl⟩
    | ⟨h1, h2, rfl⟩
  case inl =>
    obtain ⟨x, _, rfl, hx, hx', ⟨⟩⟩ := h.exists_cons
    simp only [UInt8.reduceToNat] at hx hx'
    apply encode_two <;> simp only [value, List.foldl] <;> omega
  case inr.inl | inr.inr.inl | inr.inr.inr.inl =>
    obtain ⟨x, _, rfl, hx, hx', h⟩ := h.exists_cons
    obtain ⟨y, _, rfl, hy, hy', ⟨⟩⟩ := h.exists_cons
    simp only [UInt8.reduceToNat] at hx hx' hy hy'
    apply encode_three <;> simp only [value, List.foldl, Nat.isValidChar]
      <;> omega
  all_goals
    obtain ⟨x, _, rfl, hx, hx', h⟩ := h.exists_cons
    obtain ⟨y, _, rfl, hy, hy', h⟩ := h.exists_cons
    obtain ⟨z, _, rfl, hz, hz', ⟨⟩⟩ := h.exists_cons
    simp only [UInt8.reduceToNat] at hx hx' hy hy' hz hz'
    apply encode_four <;> simp only [value, List.foldl] <;> omega

/-- One more byte follows, by its number. -/
theorem Follows.ofNat {n k : Nat} {low high : UInt8} {rest : List UInt8}
    (hk : k < 256) (hlow : low.toNat ≤ k) (hhigh : k ≤ high.toNat)
    (h : Follows n 0x80 0xBF rest) :
    Follows (n + 1) low high (UInt8.ofNat k :: rest) := by
  have hb : (UInt8.ofNat k).toNat = k := by
    rw [UInt8.toNat_ofNat']
    exact Nat.mod_eq_of_lt hk
  exact .cons (by rwa [UInt8.le_iff_toNat_le, hb])
    (by rwa [UInt8.le_iff_toNat_le, hb]) h

/-- A continuation byte holds any six bits. -/
theorem Follows.sixBits {n : Nat} {rest : List UInt8} (k : Nat)
    (h : Follows n 0x80 0xBF rest) :
    Follows (n + 1) 0x80 0xBF (UInt8.ofNat (k % 0x40 + 0x80) :: rest) :=
  .ofNat (by omega) (show 128 ≤ _ by omega) (show _ ≤ 191 by omega) h

/-- The encoding of a character is one byte below 128, or a first byte and
bytes that keep to what it demands. -/
theorem follows_of_encode (c : Char) :
    (∃ b, String.utf8EncodeChar c = [b] ∧ b < 0x80
        ∧ Char.ofNat b.toNat = c)
      ∨ ∃ b l tail, String.utf8EncodeChar c = b :: tail
        ∧ lead? b = some l ∧ Follows l.more l.low l.high tail := by
  have hvalid : c.val.toNat.isValidChar := c.valid
  have hchar : Char.ofNat c.val.toNat = c := Char.ofNat_toNat c
  have hbyte : ∀ k < 256, (UInt8.ofNat k).toNat = k := fun k hk => by
    rw [UInt8.toNat_ofNat']
    exact Nat.mod_eq_of_lt hk
  unfold String.utf8EncodeChar
  dsimp only
  generalize c.val.toNat = v at hvalid hchar
  unfold Nat.isValidChar at hvalid
  split
  case isTrue hone =>
    left
    refine ⟨_, rfl, ?_, ?_⟩
    · rw [UInt8.lt_iff_toNat_lt, hbyte v (by omega)]
      exact Nat.lt_succ_of_le hone
    · rw [hbyte v (by omega), hchar]
  -- what a first byte demands depends on the first digit to the base 64
  split
  case isTrue htwo =>
    right
    have hb := hbyte (v / 64 % 0x20 + 0xc0) (by omega)
    exact ⟨_, _, _, rfl,
      lead?_eq_some_iff.2 (.inl ⟨by omega, by omega, rfl⟩),
      .sixBits v .nil⟩
  split
  case isTrue hthree =>
    right
    have hb := hbyte (v / 4096 % 0x10 + 0xe0) (by omega)
    have hlast : Follows 1 0x80 0xBF [UInt8.ofNat (v % 0x40 + 0x80)] :=
      .sixBits v .nil
    by_cases hleast : v / 4096 = 0
    · exact ⟨_, _, _, rfl, lead?_eq_some_iff.2 (.inr (.inl
        ⟨by omega, rfl⟩)), .ofNat (by omega) (show 160 ≤ _ by omega)
        (show _ ≤ 191 by omega) hlast⟩
    by_cases hsurrogate : v / 4096 = 13
    · exact ⟨_, _, _, rfl, lead?_eq_some_iff.2 (.inr (.inr (.inl
        ⟨by omega, rfl⟩))), .ofNat (by omega) (show 128 ≤ _ by omega)
        (show _ ≤ 159 by omega) hlast⟩
    · exact ⟨_, _, _, rfl, lead?_eq_some_iff.2 (.inr (.inr (.inr (.inl
        ⟨by omega, by omega, by omega, rfl⟩)))), .sixBits _ hlast⟩
  case isFalse hfour =>
    right
    have hb := hbyte (v / 262144 % 0x08 + 0xf0) (by omega)
    have hlast : Follows 2 0x80 0xBF [UInt8.ofNat (v / 64 % 0x40 + 0x80),
        UInt8.ofNat (v % 0x40 + 0x80)] :=
      .sixBits _ (.sixBits v .nil)
    by_cases hleast : v / 262144 = 0
    · exact ⟨_, _, _, rfl, lead?_eq_some_iff.2 (.inr (.inr (.inr (.inr
        (.inl ⟨by omega, rfl⟩))))), .ofNat (by omega)
        (show 144 ≤ _ by omega) (show _ ≤ 191 by omega) hlast⟩
    by_cases hlargest : v / 262144 = 4
    · exact ⟨_, _, _, rfl, lead?_eq_some_iff.2 (.inr (.inr (.inr (.inr
        (.inr (.inl ⟨by omega, rfl⟩)))))), .ofNat (by omega)
        (show 128 ≤ _ by omega) (show _ ≤ 143 by omega) hlast⟩
    · exact ⟨_, _, _, rfl, lead?_eq_some_iff.2 (.inr (.inr (.inr (.inr
        (.inr (.inr ⟨by omega, by omega, rfl⟩)))))), .sixBits _ hlast⟩

/-- The encoding of a character at the front of some bytes is that of no
other one. -/
theorem eq_of_encode_prefix {c d : Char} {bytes : List UInt8}
    (hc : String.utf8EncodeChar c <+: bytes)
    (hd : String.utf8EncodeChar d <+: bytes) : c = d := by
  obtain ⟨rest, rfl⟩ := hc
  obtain ⟨more, hmore⟩ := hd
  have hfirst := @ByteArray.utf8DecodeChar?_utf8EncodeChar_append
    rest.toByteArray c
  rw [← List.toByteArray_append, ← hmore, List.toByteArray_append,
    ByteArray.utf8DecodeChar?_utf8EncodeChar_append] at hfirst
  exact (Option.some.inj hfirst).symm

/-- An encoding at the front of some bytes begins with their first byte,
and the rest of it is at the front of the rest. -/
theorem exists_tail_of_prefix {c : Char} {b : UInt8} {bytes : List UInt8}
    (h : String.utf8EncodeChar c <+: b :: bytes) :
    ∃ tail, String.utf8EncodeChar c = b :: tail ∧ tail <+: bytes := by
  cases hc : String.utf8EncodeChar c with
  | nil => exact absurd hc String.utf8EncodeChar_ne_nil
  | cons x tail =>
      rw [hc] at h
      obtain ⟨rfl, htail⟩ := List.cons_prefix_cons.1 h
      exact ⟨tail, rfl, htail⟩

/-- Behind a first byte that is no character by itself, the encoding of
one goes on as it demands. -/
theorem follows_of_encode_cons {c : Char} {b : UInt8} {tail : List UInt8}
    (hb : ¬ b < 0x80) (h : String.utf8EncodeChar c = b :: tail) :
    ∃ l, lead? b = some l ∧ Follows l.more l.low l.high tail := by
  obtain ⟨b', hone, hsmall, -⟩ | ⟨b', l, tail', hmany, hlead, hfollows⟩ :=
    follows_of_encode c
  · obtain ⟨rfl, -⟩ := List.cons_eq_cons.1 (hone.symm.trans h)
    exact absurd hsmall hb
  · obtain ⟨rfl, rfl⟩ := List.cons_eq_cons.1 (hmany.symm.trans h)
    exact ⟨l, hlead, hfollows⟩

-- ========================================================= the decoder

/-- The bounds of a continuation byte. -/
theorem continuation_bounds : (0x80 : UInt8) ≤ 0xBF := by decide

/-- Some bytes keep to any demand whose bounds leave room. -/
theorem exists_follows (n : Nat) {low high : UInt8} (h : low ≤ high) :
    ∃ tail, Follows n low high tail := by
  induction n generalizing low high with
  | zero => exact ⟨[], .nil⟩
  | succ n ih =>
      obtain ⟨tail, htail⟩ := ih continuation_bounds
      exact ⟨low :: tail, .cons (UInt8.le_refl low) h htail⟩

/-- Bytes that begin as demanded, and go on otherwise or not at all. -/
structure Stops (n : Nat) (low high : UInt8) (taken rest : List UInt8) :
    Prop where
  completes : ∃ more, Follows n low high (taken ++ more)
  next : ∀ b more tail, rest = b :: more →
    ¬ Follows n low high (taken ++ b :: tail)
  follows_none : ∀ tail, Follows n low high tail → ¬ tail <+: taken ++ rest

/-- The decoder takes the bytes that are demanded, or stops where they are
not as demanded. -/
theorem follow_cases (n : Nat) {low high : UInt8} (hbounds : low ≤ high)
    (bits : Nat) (bytes : List UInt8) :
    (∃ tail rest, bytes = tail ++ rest ∧ Follows n low high tail
        ∧ follow n low high bits bytes = (some (value bits tail), rest))
      ∨ ∃ taken rest, bytes = taken ++ rest ∧ Stops n low high taken rest
        ∧ follow n low high bits bytes = (none, rest) := by
  induction n generalizing low high bits bytes with
  | zero => exact .inl ⟨[], bytes, rfl, .nil, rfl⟩
  | succ n ih =>
      cases bytes with
      | nil =>
          refine .inr ⟨[], [], rfl, ⟨exists_follows _ hbounds, nofun, ?_⟩,
            rfl⟩
          rintro _ ⟨⟩ hprefix
          exact absurd (List.prefix_nil.1 hprefix) nofun
      | cons b bytes =>
          rw [follow]
          by_cases hb : low ≤ b ∧ b ≤ high
          · have htaken : (decide (low ≤ b) && decide (b ≤ high)) = true := by
              simpa using hb
            rw [if_pos htaken]
            obtain ⟨tail, rest, rfl, hfollows, hfollow⟩
              | ⟨taken, rest, rfl, hstops, hfollow⟩ :=
              ih continuation_bounds
                (bits * 64 + (b.toNat - 0x80)) bytes
            · rw [← value_cons] at hfollow
              exact .inl ⟨b :: tail, rest, rfl, .cons hb.1 hb.2 hfollows,
                hfollow⟩
            · refine .inr ⟨b :: taken, rest, rfl, ⟨?_, ?_, ?_⟩, hfollow⟩
              · obtain ⟨more, hmore⟩ := hstops.completes
                exact ⟨more, .cons hb.1 hb.2 hmore⟩
              · rintro x more tail hrest ⟨⟩
                exact hstops.next x more tail hrest ‹_›
              · rintro _ ⟨⟩ hprefix
                exact hstops.follows_none _ ‹_›
                  (List.cons_prefix_cons.1 hprefix).2
          · have hother : ¬ (decide (low ≤ b) && decide (b ≤ high)) = true := by
              simpa using hb
            rw [if_neg hother]
            refine .inr ⟨[], b :: bytes, rfl,
              ⟨exists_follows _ hbounds, ?_, ?_⟩, rfl⟩
            · rintro x more tail hrest ⟨⟩
              obtain ⟨rfl, -⟩ := List.cons_eq_cons.1 hrest
              exact hb ⟨‹_›, ‹_›⟩
            · rintro _ ⟨⟩ hprefix
              obtain ⟨rfl, -⟩ := List.cons_prefix_cons.1 hprefix
              exact hb ⟨‹_›, ‹_›⟩

/-- The bounds of a first byte leave room. -/
theorem low_le_high {b : UInt8} {l : Lead} (h : lead? b = some l) :
    l.low ≤ l.high := by
  rcases lead?_eq_some_iff.1 h with ⟨-, -, rfl⟩ | ⟨-, rfl⟩ | ⟨-, rfl⟩
    | ⟨-, -, -, rfl⟩ | ⟨-, rfl⟩ | ⟨-, rfl⟩ | ⟨-, -, rfl⟩
  all_goals
    dsimp only
    decide

/-- A byte below 128 is a character. -/
theorem encode_of_lt {b : UInt8} (h : b < 0x80) :
    String.utf8EncodeChar (Char.ofNat b.toNat) = [b] := by
  have hb : b.toNat < 0x80 := h
  unfold String.utf8EncodeChar
  simp only [toNat_ofNat (v := b.toNat) (.inl (by omega))]
  rw [if_pos (by omega)]
  simp

/-- A byte that no encoding begins with is malformed. -/
theorem malformed_of_lead?_eq_none {b : UInt8} (hb : ¬ b < 0x80)
    (hlead : lead? b = none) (rest : List UInt8) :
    Malformed [b] rest := by
  have hnone : ∀ c more, ¬ b :: more = String.utf8EncodeChar c := by
    intro c more h
    obtain ⟨l, hl, -⟩ := follows_of_encode_cons hb h.symm
    rw [hl] at hlead
    cases hlead
  refine ⟨nofun, fun c hprefix => ?_, .inl rfl, ?_⟩
  · obtain ⟨tail, hc, -⟩ := exists_tail_of_prefix hprefix
    exact hnone c tail hc.symm
  · rintro x more - ⟨c, tail, hc⟩
    exact hnone c _ hc

/-- A first byte and the bytes behind it that keep to what it demands, up
to where they stop, are malformed. -/
theorem malformed_of_stops {b : UInt8} {l : Lead}
    {taken rest : List UInt8} (hb : ¬ b < 0x80) (hlead : lead? b = some l)
    (hstops : Stops l.more l.low l.high taken rest) :
    Malformed (b :: taken) rest := by
  have hencoded : ∀ c tail, String.utf8EncodeChar c = b :: tail →
      Follows l.more l.low l.high tail := by
    intro c tail hc
    obtain ⟨l', hl', hfollows⟩ := follows_of_encode_cons hb hc
    obtain rfl := Option.some.inj (hlead.symm.trans hl')
    exact hfollows
  refine ⟨nofun, fun c hprefix => ?_, .inr ?_, ?_⟩
  · obtain ⟨tail, hc, htail⟩ := exists_tail_of_prefix hprefix
    exact hstops.follows_none tail (hencoded c tail hc) htail
  · obtain ⟨more, hmore⟩ := hstops.completes
    exact ⟨_, more, (encode_of_follows hlead hmore).symm⟩
  · rintro x more hrest ⟨c, tail, hc⟩
    refine hstops.next x more tail hrest ?_
    apply hencoded c
    rw [← hc]
    simp

/-- The decoder tells what bytes spell. -/
theorem spells_decode (bytes : List UInt8) :
    Spells bytes ((decode bytes).map (·.getD replacement)) := by
  fun_induction decode bytes with
  | case1 => exact .nil
  | case2 b bytes hb ih =>
      have h := Spells.char (Char.ofNat b.toNat) ih
      rwa [encode_of_lt hb] at h
  | case3 b bytes hb hlead ih =>
      exact .malformed (malformed_of_lead?_eq_none hb hlead bytes) ih
  | case4 b bytes hb l hlead ih =>
      obtain ⟨tail, rest, rfl, hfollows, hfollow⟩
        | ⟨taken, rest, rfl, hstops, hfollow⟩ :=
        follow_cases l.more (low_le_high hlead) l.bits bytes
      · rw [hfollow] at ih ⊢
        have h := Spells.char (Char.ofNat (value l.bits tail)) ih
        rwa [encode_of_follows hlead hfollows] at h
      · rw [hfollow] at ih ⊢
        exact .malformed (malformed_of_stops hb hlead hstops) ih

/-- A stretch of malformed bytes is as long as another one at the same
place. -/
theorem Malformed.length_le {bad rest bad' rest' : List UInt8}
    (h : Malformed bad rest) (h' : Malformed bad' rest')
    (hsame : bad ++ rest = bad' ++ rest') : bad'.length ≤ bad.length := by
  rw [← Nat.not_lt]
  intro hlt
  obtain ⟨_ | ⟨b, more⟩, rfl, rfl⟩ :=
    (List.append_eq_append_iff.1 hsame).resolve_right fun hother => by
      obtain ⟨more, hbad, -⟩ := hother
      rw [hbad, List.length_append] at hlt
      omega
  · simp at hlt
  · obtain hone | ⟨c, hc⟩ := h'.begins
    · rw [List.length_append, List.length_cons] at hone
      have := List.length_pos_iff.2 h.ne_nil
      omega
    · refine h.longest b (more ++ rest') rfl ⟨c, .trans ?_ hc⟩
      exact ⟨more, by simp⟩

/-- Stretches of malformed bytes at the same place are the same. -/
theorem Malformed.unique {bad rest bad' rest' : List UInt8}
    (h : Malformed bad rest) (h' : Malformed bad' rest')
    (hsame : bad ++ rest = bad' ++ rest') : bad = bad' ∧ rest = rest' :=
  List.append_inj hsame
    (Nat.le_antisymm (h'.length_le h hsame.symm) (h.length_le h' hsame))

/-- Bytes spell one text only. -/
theorem Spells.unique {bytes : List UInt8} {text text' : List Char}
    (h : Spells bytes text) (h' : Spells bytes text') : text = text' := by
  induction h generalizing text' with
  | nil =>
      generalize hbytes : ([] : List UInt8) = bytes at h'
      cases h' with
      | nil => rfl
      | char c h =>
          exact absurd (List.append_eq_nil_iff.1 hbytes.symm).1
            String.utf8EncodeChar_ne_nil
      | malformed hbad h =>
          exact absurd (List.append_eq_nil_iff.1 hbytes.symm).1 hbad.ne_nil
  | @char c rest text h ih =>
      generalize hbytes : String.utf8EncodeChar c ++ rest = bytes at h'
      cases h' with
      | nil =>
          exact absurd (List.append_eq_nil_iff.1 hbytes).1
            String.utf8EncodeChar_ne_nil
      | @char d more _ h' =>
          obtain rfl : c = d :=
            eq_of_encode_prefix (hbytes ▸ List.prefix_append ..)
              (List.prefix_append ..)
          rw [List.append_cancel_left hbytes] at ih
          rw [ih h']
      | malformed hbad h' =>
          exact absurd (hbytes ▸ List.prefix_append ..) (hbad.encodes_none c)
  | @malformed bad rest text hbad h ih =>
      generalize hbytes : bad ++ rest = bytes at h'
      cases h' with
      | nil => exact absurd (List.append_eq_nil_iff.1 hbytes).1 hbad.ne_nil
      | char d h' =>
          exact absurd (hbytes ▸ List.prefix_append ..)
            (hbad.encodes_none d)
      | malformed hbad' h' =>
          obtain ⟨rfl, rfl⟩ := hbad.unique hbad' hbytes
          rw [ih h']

end Utf8

-- =================================================== other encodings

/-- What a byte of a single-byte encoding stands for. -/
inductive Decoding.Stands : Decoding → UInt8 → Char → Prop
  | ascii (d : Decoding) {b : UInt8} (hb : b < 128) :
      Stands d b (Char.ofNat b.toNat)
  | entry {high : Array Nat} {b : UInt8} {n : Nat} (hb : 128 ≤ b)
      (hn : high[b.toNat - 128]? = some n) (hne : n ≠ 0) :
      Stands (.table high) b (Char.ofNat n)
  | hole {high : Array Nat} {b : UInt8} (hb : 128 ≤ b)
      (hn : high[b.toNat - 128]?.getD 0 = 0) :
      Stands (.table high) b Utf8.replacement
  | privateUse {b : UInt8} (hb : 128 ≤ b) :
      Stands .privateUse b (Char.ofNat (0xF700 + b.toNat))

/-- What bytes spell in an encoding, as far as its decoder is not asked
for it. -/
def Charset.Spells (decoders : Decoders) (c : Charset)
    (bytes : List UInt8) (text : String) : Prop :=
  match c.decoding with
  | .utf8 => Utf8.Spells bytes text.toList
  | .multi | .wide => text.toList
      = (decoders c.name bytes).map (·.getD Utf8.replacement)
  | d => List.Forall₂ d.Stands bytes text.toList

/-- A byte of a single-byte encoding is read as what it stands for. -/
theorem Decoding.stands_byte {d : Decoding}
    (hd : (∃ high, d = .table high) ∨ d = .privateUse) (b : UInt8) :
    d.Stands b ((d.byte b).getD Utf8.replacement) := by
  unfold byte
  split
  case isTrue hb => exact .ascii d hb
  case isFalse hb =>
    have hb : 128 ≤ b := UInt8.not_lt.1 hb
    obtain ⟨high, rfl⟩ | rfl := hd
    · dsimp only
      split
      case h_1 hn => exact .hole hb (by rw [hn]; rfl)
      case h_2 hn => exact .hole hb (by rw [hn]; rfl)
      case h_3 n hne hn =>
        exact .entry hb hn hne
    · exact .privateUse hb

/-- Bytes are decoded as they spell. -/
theorem Charset.spells_decode (decoders : Decoders) (c : Charset)
    (bytes : List UInt8) :
    c.Spells decoders bytes (c.decode bytes decoders) := by
  have hsingle : ∀ d : Decoding,
      ((∃ high, d = .table high) ∨ d = .privateUse) →
      List.Forall₂ d.Stands bytes
        ((bytes.map d.byte).map (·.getD Utf8.replacement)) := by
    intro d hd
    rw [List.map_map, List.forall₂_map_right_iff]
    exact List.forall₂_same.2 fun b _ => Decoding.stands_byte hd b
  obtain ⟨name, decoding⟩ := c
  unfold Spells decode decodeEach
  rw [String.toList_ofList]
  cases decoding with
  | utf8 => exact Utf8.spells_decode bytes
  | table high => exact hsingle (.table high) (.inl ⟨high, rfl⟩)
  | privateUse => exact hsingle .privateUse (.inr rfl)
  | multi => rfl
  | wide => rfl

/-- A byte stands for one character only. -/
theorem Decoding.Stands.unique {d : Decoding} {b : UInt8} {x y : Char}
    (hx : d.Stands b x) (hy : d.Stands b y) : x = y := by
  have hsmall : b < 128 → ¬ 128 ≤ b := fun h => UInt8.not_le.2 h
  cases hx with
  | ascii _ hb =>
      cases hy with
      | ascii => rfl
      | entry hb' | hole hb' | privateUse hb' => exact absurd hb' (hsmall hb)
  | entry hb hn hne =>
      cases hy with
      | ascii _ hb' => exact absurd hb (hsmall hb')
      | entry _ hn' => rw [Option.some.inj (hn.symm.trans hn')]
      | hole _ hn' => exact absurd (by rw [hn] at hn'; exact hn') hne
  | hole hb hn =>
      cases hy with
      | ascii _ hb' => exact absurd hb (hsmall hb')
      | entry _ hn' hne => exact absurd (by rw [hn'] at hn; exact hn) hne
      | hole => rfl
  | privateUse hb =>
      cases hy with
      | ascii _ hb' => exact absurd hb (hsmall hb')
      | privateUse => rfl

/-- Bytes spell one text only. -/
theorem Charset.Spells.unique {decoders : Decoders} {c : Charset}
    {bytes : List UInt8} {text text' : String}
    (h : c.Spells decoders bytes text) (h' : c.Spells decoders bytes text') :
    text = text' := by
  rw [← String.toList_inj]
  obtain ⟨name, decoding⟩ := c
  have hunique : Relator.RightUnique decoding.Stands :=
    fun _ _ _ => Decoding.Stands.unique
  cases decoding with
  | utf8 => exact Utf8.Spells.unique h h'
  | table high => exact List.right_unique_forall₂' hunique h h'
  | privateUse => exact List.right_unique_forall₂' hunique h h'
  | multi => exact Eq.trans h (Eq.symm h')
  | wide => exact Eq.trans h (Eq.symm h')

end Gatewatch.Text
