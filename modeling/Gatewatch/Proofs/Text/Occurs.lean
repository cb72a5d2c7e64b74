/-
Where a pattern occurs in a text that is written in a code.

A code writes each character as one letter or more. A reader who
searches the letters for a pattern may find it where the text does not
hold it: across two characters, or inside one. That is ruled out when
the code shows the pattern (`Shows`): its characters are single letters,
no other writing begins with one of those, and the first of them is
found in no other writing at all. The first letter then fixes where a
character begins, and from there on the writings are read one by one
(`Shows.infix_iff`).

UTF-8 shows every ASCII pattern (`shows_utf8`).
-/
import Gatewatch.Text.Utf8
import Mathlib.Data.List.Infix

namespace Gatewatch.Text

variable {α β : Type}

-- =========================================================== patterns

/-- A pattern that starts with an item occurs behind a stretch without
that item. -/
theorem infix_of_append {x : α} {m a b : List α} (hx : x ∉ a)
    (h : x :: m <:+: a ++ b) : x :: m <:+: b := by
  induction a with
  | nil => exact h
  | cons y a ih =>
      rw [List.cons_append, List.infix_cons_iff] at h
      rcases h with h | h
      · rw [List.cons_prefix_cons] at h
        exact absurd (h.1 ▸ List.mem_cons_self) hx
      · exact ih (fun hxa => hx (List.mem_cons_of_mem y hxa)) h

/-- A prefix does not reach an item that it does not hold. -/
theorem prefix_of_append_cons {m a b : List α} {c : α} (hc : c ∉ m)
    (h : m <+: a ++ c :: b) : m <+: a := by
  rcases List.prefix_or_prefix_of_prefix h
    (List.prefix_append a (c :: b)) with hp | ⟨t, ht⟩
  · exact hp
  · rw [← ht, List.prefix_append_right_inj] at h
    cases t with
    | nil => exact ⟨[], by rw [List.append_nil, ← ht, List.append_nil]⟩
    | cons z t =>
        rw [List.cons_prefix_cons] at h
        rw [← ht, h.1] at hc
        exact absurd (List.mem_append_right a List.mem_cons_self) hc

/-- A pattern occurs on one side of an item that it does not hold. -/
theorem infix_append_cons {m a b : List α} {c : α} (hc : c ∉ m) :
    m <:+: a ++ c :: b ↔ m <:+: a ∨ m <:+: b := by
  constructor
  · intro h
    induction a with
    | nil =>
        rw [List.nil_append, List.infix_cons_iff] at h
        rcases h with h | h
        · exact Or.inl (prefix_of_append_cons (a := []) hc h).isInfix
        · exact Or.inr h
    | cons y a ih =>
        rw [List.cons_append, List.infix_cons_iff] at h
        rcases h with h | h
        · exact Or.inl (prefix_of_append_cons (a := y :: a) hc h).isInfix
        · rcases ih h with h | h
          · exact Or.inl (List.infix_cons_iff.2 (Or.inr h))
          · exact Or.inr h
  · rintro (h | h)
    · exact h.trans (List.prefix_append a (c :: b)).isInfix
    · exact h.trans ((List.suffix_cons c b).trans
        (List.suffix_append a (c :: b))).isInfix

-- ============================================================== codes

/-- A code `f` shows the pattern `first :: more`: each character of it
is written as the letter that `g` gives, no other character is written
with that letter in front, and the first letter is in no other
writing. -/
structure Shows (f : α → List β) (g : α → β) (first : α) (more : List α) :
    Prop where
  written : ∀ c, f c ≠ []
  letter : ∀ x ∈ first :: more, f x = [g x]
  leads : ∀ x ∈ first :: more, ∀ c rest, f c = g x :: rest → c = x
  starts : ∀ c, g first ∈ f c → c = first

namespace Shows

variable {f : α → List β} {g : α → β} {first : α} {more : List α}

/-- Characters of the pattern that the letters start with start the
text. -/
theorem prefix_of_flatMap (hs : Shows f g first more) {m cs : List α}
    (hm : ∀ x ∈ m, x ∈ first :: more)
    (h : m.flatMap f <+: cs.flatMap f) : m <+: cs := by
  induction m generalizing cs with
  | nil => exact List.nil_prefix
  | cons x m ih =>
      have hx : x ∈ first :: more := hm x List.mem_cons_self
      rw [List.flatMap_cons, hs.letter x hx, List.singleton_append] at h
      cases cs with
      | nil => exact absurd (List.prefix_nil.1 h) (List.cons_ne_nil _ _)
      | cons c cs =>
          rw [List.flatMap_cons] at h
          obtain ⟨d, rest, hd⟩ := List.exists_cons_of_ne_nil (hs.written c)
          rw [hd, List.cons_append, List.cons_prefix_cons] at h
          obtain ⟨rfl, h⟩ := h
          have hc : c = x := hs.leads x hx c rest hd
          subst hc
          rw [hs.letter c hx] at hd
          injection hd with _ hrest
          rw [← hrest, List.nil_append] at h
          rw [List.cons_prefix_cons]
          exact ⟨rfl, ih (fun y hy => hm y (List.mem_cons_of_mem c hy)) h⟩

/-- The pattern occurs in the letters exactly when it occurs in the
text. -/
theorem infix_iff (hs : Shows f g first more) (cs : List α) :
    (first :: more).flatMap f <:+: cs.flatMap f
      ↔ first :: more <:+: cs := by
  constructor
  · intro h
    induction cs with
    | nil =>
        rw [List.flatMap_cons, hs.letter first List.mem_cons_self] at h
        cases List.infix_nil.1 h
    | cons c cs ih =>
        rw [List.infix_cons_iff]
        have hfirst := hs.letter first List.mem_cons_self
        by_cases hc : c = first
        · subst hc
          have hall : (c :: cs).flatMap f = g c :: cs.flatMap f := by
            rw [List.flatMap_cons, hfirst, List.singleton_append]
          rw [hall, List.infix_cons_iff] at h
          rcases h with h | h
          · rw [← hall] at h
            exact Or.inl (hs.prefix_of_flatMap (fun _ hx => hx) h)
          · exact Or.inr (ih h)
        · rw [List.flatMap_cons, hfirst, List.singleton_append,
            List.flatMap_cons] at h
          have hnot : g first ∉ f c := fun hmem => hc (hs.starts c hmem)
          refine Or.inr (ih ?_)
          rw [List.flatMap_cons, hfirst, List.singleton_append]
          exact infix_of_append hnot h
  · rintro ⟨p, q, rfl⟩
    rw [List.flatMap_append, List.flatMap_append]
    exact ⟨p.flatMap f, q.flatMap f, rfl⟩

end Shows

-- ============================================================== UTF-8

/-- A byte below 128 is all that its character is written as. -/
theorem utf8EncodeChar_of_mem {c : Char} {b : UInt8}
    (hb : b ∈ String.utf8EncodeChar c) (hlow : b.toNat < 128) :
    String.utf8EncodeChar c = [b] ∧ c.toNat = b.toNat := by
  unfold String.utf8EncodeChar at hb ⊢
  by_cases hv : c.val.toNat ≤ 0x7f
  · rw [if_pos hv] at hb ⊢
    rw [List.mem_singleton] at hb
    subst hb
    refine ⟨rfl, ?_⟩
    rw [UInt8.toNat_ofNat', Nat.mod_eq_of_lt (Nat.lt_of_le_of_lt hv (by decide))]
    rfl
  · -- every byte of a longer writing has its top bit set
    exfalso
    rw [if_neg hv] at hb
    split at hb
    · simp only [List.mem_cons, List.not_mem_nil, or_false] at hb
      rcases hb with rfl | rfl <;> rw [UInt8.toNat_ofNat'] at hlow <;> omega
    · split at hb
      · simp only [List.mem_cons, List.not_mem_nil, or_false] at hb
        rcases hb with rfl | rfl | rfl <;>
          rw [UInt8.toNat_ofNat'] at hlow <;> omega
      · simp only [List.mem_cons, List.not_mem_nil, or_false] at hb
        rcases hb with rfl | rfl | rfl | rfl <;>
          rw [UInt8.toNat_ofNat'] at hlow <;> omega

/-- An ASCII character is written as the byte of its number. -/
theorem utf8EncodeChar_ascii {c : Char} (hc : c.toNat < 128) :
    String.utf8EncodeChar c = [UInt8.ofNat c.toNat] := by
  unfold String.utf8EncodeChar
  exact if_pos (Nat.le_of_lt_succ hc)

/-- UTF-8 shows a pattern of ASCII characters. -/
theorem shows_utf8 {first : Char} {more : List Char}
    (hascii : ∀ c ∈ first :: more, c.toNat < 128) :
    Shows String.utf8EncodeChar (fun c => UInt8.ofNat c.toNat) first
      more := by
  -- a writing with the byte of an ASCII character is of that character
  have hown : ∀ x ∈ first :: more, ∀ c,
      UInt8.ofNat x.toNat ∈ String.utf8EncodeChar c → c = x := by
    intro x hx c hmem
    have hbyte : (UInt8.ofNat x.toNat).toNat = x.toNat := by
      rw [UInt8.toNat_ofNat', Nat.mod_eq_of_lt]
      exact Nat.lt_trans (hascii x hx) (by decide)
    have hlow : (UInt8.ofNat x.toNat).toNat < 128 := by
      rw [hbyte]
      exact hascii x hx
    have hc := (utf8EncodeChar_of_mem hmem hlow).2
    rw [hbyte] at hc
    exact Char.toNat_inj.1 hc
  refine ⟨fun c => String.utf8EncodeChar_ne_nil, ?_, ?_, ?_⟩
  · exact fun x hx => utf8EncodeChar_ascii (hascii x hx)
  · intro x hx c rest hc
    exact hown x hx c (hc ▸ List.mem_cons_self)
  · exact fun c hmem => hown first List.mem_cons_self c hmem

namespace Utf8

/-- The bytes of an array, one by one. -/
theorem toList_eq_data (b : ByteArray) : b.toList = b.data.toList := by
  have hloop : ∀ i done, ByteArray.toList.loop b i done
      = done.reverse ++ b.data.toList.drop i := by
    intro i done
    fun_induction ByteArray.toList.loop b i done with
    | case1 i done hi ih =>
        have hlt : i < b.data.toList.length := hi
        rw [ih, List.drop_eq_getElem_cons hlt, List.reverse_cons,
          List.append_assoc, List.singleton_append]
        congr 2
        exact getElem!_pos b.data i hi
    | case2 i done hi =>
        have hle : b.data.toList.length ≤ i := Nat.le_of_not_lt hi
        rw [List.drop_eq_nil_of_le hle, List.append_nil]
  exact hloop 0 []

/-- The bytes of a text are those of its characters. -/
theorem encode_eq (text : String) :
    encode text = text.toList.flatMap String.utf8EncodeChar := by
  unfold encode
  rw [toList_eq_data, String.toUTF8_eq_toByteArray,
    ← String.utf8Encode_toList, List.utf8Encode,
    List.toList_data_toByteArray]

/-- The bytes of a text stand for it. -/
theorem fromUTF8?_encode (text : String) :
    String.fromUTF8? ⟨(encode text).toArray⟩ = some text := by
  have hbytes : (⟨(encode text).toArray⟩ : ByteArray) = text.toByteArray := by
    unfold encode
    rw [toList_eq_data, Array.toArray_toList]
    rfl
  rw [hbytes]
  unfold String.fromUTF8?
  rw [dif_pos text.isValidUTF8]
  rfl

/-- An ASCII pattern occurs in the bytes of a text exactly when it
occurs in the text. -/
theorem encode_infix_iff {pattern : String} (hne : pattern.toList ≠ [])
    (hascii : ∀ c ∈ pattern.toList, c.toNat < 128) (text : String) :
    encode pattern <:+: encode text ↔ pattern.toList <:+: text.toList := by
  obtain ⟨first, more, hp⟩ := List.exists_cons_of_ne_nil hne
  rw [encode_eq, encode_eq, hp]
  exact (shows_utf8 (hp ▸ hascii)).infix_iff text.toList

end Utf8

end Gatewatch.Text
