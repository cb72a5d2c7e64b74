/-
Documents of texts, whole numbers and lists: what is written is read
back.

# Reading

`Plain` values are those whose text tells the value again: doubles and
objects are left out, and so are numbers beyond 64 bits, which the reader
takes for doubles. The reader of a value is correct with whatever may
stand behind it (`readValue_text`). Its fuel is the number of characters
of the text: each item costs one step on top of its own text, and the
comma or the bracket in front of it pays for that.

# Searching

A pattern that no syntax of a document is part of (`Foreign`) occurs in
the text of a value exactly when it occurs in a text that the value
holds (`infix_text_iff`).
-/
import Gatewatch.Proofs.Json.Escape
import Gatewatch.Proofs.Json.Numeral

namespace Gatewatch.Json

/-- A value of texts, whole numbers that 64 bits hold, and lists of such
values that nest at most `depth` deep. -/
inductive Plain : Nat → Value → Prop where
  | str (depth : Nat) (s : String) : Plain depth (.str s)
  | int (depth : Nat) {n : Int} (hlow : -(Word.size 63 : Int) ≤ n)
      (hhigh : n < Word.size 64) : Plain depth (.ofInt n)
  | arr {depth : Nat} {items : List Value}
      (hitems : ∀ v ∈ items, Plain depth v) : Plain (depth + 1) (.arr items)

/-- A text that a value holds. -/
inductive Within (s : String) : Value → Prop where
  | here : Within s (.str s)
  | item {v : Value} {items : List Value} (hv : v ∈ items)
      (hs : Within s v) : Within s (.arr items)

/-- A value that nests less deep nests no deeper. -/
theorem Plain.mono {depth limit : Nat} {v : Value} (h : Plain depth v)
    (hle : depth ≤ limit) : Plain limit v := by
  induction h generalizing limit with
  | str _ s => exact Plain.str limit s
  | int _ hlow hhigh => exact Plain.int limit hlow hhigh
  | arr _ ih =>
      cases limit with
      | zero => cases hle
      | succ limit =>
          exact Plain.arr fun v hv => ih v hv (Nat.le_of_succ_le_succ hle)

-- ========================================================= characters

theorem text_str (s : String) :
    (Value.str s).text.toList
      = '"' :: (s.toList.flatMap escapeChar ++ ['"']) := by
  rw [Value.text, quote]
  simp only [String.toList_append, String.toList_ofList]
  rfl

theorem text_ofNat (n : Nat) :
    (Value.ofInt (Int.ofNat n)).text.toList = Nat.toDigits 10 n := by
  rw [Value.ofInt, Value.text, Number.text]
  exact Nat.toList_repr

theorem text_negSucc (n : Nat) :
    (Value.ofInt (Int.negSucc n)).text.toList
      = '-' :: Nat.toDigits 10 (n + 1) := by
  rw [Value.ofInt, Value.text, Number.text]
  show ("-" ++ Nat.repr (n + 1)).toList = _
  rw [String.toList_append, Nat.toList_repr]
  rfl

theorem text_arr (items : List Value) :
    (Value.arr items).text.toList
      = '[' :: ((itemsText true items).toList ++ [']']) := by
  rw [Value.text, String.toList_append, String.toList_append]
  rfl

theorem itemsText_single (v : Value) :
    (itemsText true [v]).toList = v.text.toList := by
  rw [itemsText, itemsText]
  simp

theorem itemsText_cons (v w : Value) (items : List Value) :
    (itemsText true (v :: w :: items)).toList
      = v.text.toList ++ ',' :: (itemsText true (w :: items)).toList := by
  rw [itemsText, itemsText, itemsText]
  simp

/-- A digit is no blank. -/
theorem isBlank_of_isDigit {c : Char} (hc : c.isDigit = true) :
    isBlank c = false := by
  rw [Bool.eq_false_iff]
  intro hblank
  unfold isBlank at hblank
  simp only [Bool.or_eq_true, beq_iff_eq] at hblank
  rcases hblank with ((rfl | rfl) | rfl) | rfl <;> cases hc

/-- Items start as the first of them does. -/
theorem itemsText_prefix (v : Value) (items : List Value) :
    v.text.toList <+: (itemsText true (v :: items)).toList := by
  cases items with
  | nil => rw [itemsText_single]
  | cons w items =>
      rw [itemsText_cons]
      exact List.prefix_append _ _

/-- The text of a value starts with a character that is no blank and
does not close an array. -/
theorem Plain.text_eq_cons {depth : Nat} {v : Value} (h : Plain depth v) :
    ∃ c cs, v.text.toList = c :: cs ∧ isBlank c = false ∧ c ≠ ']' := by
  cases h with
  | str _ s => exact ⟨_, _, text_str s, rfl, by decide⟩
  | @int _ n hlow hhigh =>
      cases n with
      | ofNat n =>
          obtain ⟨d, ds, hds, -⟩ := toDigits_eq_cons n
          have hd : d.isDigit = true :=
            isDigit_toDigits n d (hds ▸ List.mem_cons_self)
          refine ⟨d, ds, (text_ofNat n).trans hds,
            isBlank_of_isDigit hd, ?_⟩
          rintro rfl
          cases hd
      | negSucc n => exact ⟨_, _, text_negSucc n, rfl, by decide⟩
  | arr hitems => exact ⟨_, _, text_arr _, rfl, by decide⟩

/-- The text of a value is not empty, so its length is some fuel. -/
theorem Plain.exists_fuel {depth fuel : Nat} {v : Value}
    (h : Plain depth v) (hfuel : v.text.toList.length ≤ fuel) :
    ∃ k, fuel = k + 1 := by
  obtain ⟨c, cs, hv, -⟩ := h.text_eq_cons
  rw [hv, List.length_cons] at hfuel
  exact ⟨fuel - 1, by omega⟩

-- ============================================================ reading

theorem skip_cons {c : Char} (hc : isBlank c = false) (cs : List Char) :
    skip (c :: cs) = c :: cs := by
  unfold skip
  rw [List.dropWhile_cons_of_neg (by rw [hc]; decide)]

/-- A value that starts with a digit is a number. -/
theorem readValue_digit {c : Char} (hc : c.isDigit = true)
    (fuel depth : Nat) (cs : List Char) :
    readValue (fuel + 1) depth (c :: cs)
      = (readNumber false (c :: cs)).map fun (n, rest) => (.num n, rest) := by
  rw [readValue, skip_cons (isBlank_of_isDigit hc)]
  -- no other kind of value starts with a digit
  split
  all_goals first
    | rfl
    | (rename_i heq; injection heq with heq; subst heq; cases hc)

/-- An array that does not end at once is read item by item. -/
theorem readValue_items {c : Char} (hblank : isBlank c = false)
    (hclose : c ≠ ']') (fuel depth : Nat) (cs : List Char) :
    readValue (fuel + 1) (depth + 1) ('[' :: c :: cs)
      = readItems fuel depth [] (c :: cs) := by
  rw [readValue, skip_cons (by decide)]
  show (if depth + 1 = 0 then none else _) = _
  rw [if_neg (Nat.succ_ne_zero depth), skip_cons hblank]
  split
  case h_1 heq =>
    injection heq with heq
    exact absurd heq hclose
  case h_2 => rfl

/-- Items are read up to the end of their array, when each of them is
read with whatever may follow. -/
theorem readItems_text {depth : Nat} {items : List Value}
    (hread : ∀ v ∈ items, ∀ fuel rest, v.text.toList.length ≤ fuel →
      Ends rest → readValue fuel depth (v.text.toList ++ rest)
        = some (v, rest))
    (hne : items ≠ []) (done : List Value) {fuel : Nat} (rest : List Char)
    (hfuel : (itemsText true items).toList.length < fuel) :
    readItems fuel depth done
        ((itemsText true items).toList ++ ']' :: rest)
      = some (.arr (done.reverse ++ items), rest) := by
  induction items generalizing done fuel with
  | nil => exact absurd rfl hne
  | cons v items ih =>
      have hv := hread v List.mem_cons_self
      obtain ⟨fuel, rfl⟩ : ∃ k, fuel = k + 1 :=
        Nat.exists_eq_succ_of_ne_zero (Nat.ne_zero_of_lt hfuel)
      cases items with
      | nil =>
          rw [itemsText_single] at hfuel ⊢
          rw [readItems, hv fuel _ (Nat.le_of_lt_succ hfuel)
            (ends_bracket rest)]
          dsimp only
          rw [skip_cons (by decide)]
          show some (Value.arr (v :: done).reverse, rest) = _
          rw [List.reverse_cons]
      | cons w items =>
          rw [itemsText_cons] at hfuel ⊢
          rw [List.length_append, List.length_cons] at hfuel
          rw [List.append_assoc, List.cons_append, readItems,
            hv fuel _ (by omega) (ends_comma _)]
          dsimp only
          rw [skip_cons (by decide)]
          show readItems fuel depth (v :: done) _ = _
          rw [ih (fun x hx => hread x (List.mem_cons_of_mem v hx))
            (List.cons_ne_nil w items) (v :: done) (by omega),
            List.reverse_cons, List.append_assoc, List.singleton_append]

/-- A text is read back. -/
theorem readValue_str (fuel depth : Nat) (s : String) (rest : List Char) :
    readValue (fuel + 1) depth ((Value.str s).text.toList ++ rest)
      = some (.str s, rest) := by
  rw [text_str, List.cons_append, List.append_assoc, List.singleton_append,
    readValue, skip_cons (by decide)]
  show (readText _ [] _).map _ = _
  have hlen := length_le_escape s.toList
  rw [readText_escape s.toList (by rw [List.length_append]; omega) [] rest,
    List.reverse_nil, List.nil_append, String.ofList_toList]
  rfl

/-- A whole number that 64 bits hold is read back. -/
theorem readValue_int (fuel depth : Nat) {n : Int}
    (hlow : -(Word.size 63 : Int) ≤ n) (hhigh : n < Word.size 64)
    {rest : List Char} (hrest : Ends rest) :
    readValue (fuel + 1) depth ((Value.ofInt n).text.toList ++ rest)
      = some (.ofInt n, rest) := by
  cases n with
  | ofNat n =>
      have hn : n < Word.size 64 := Int.ofNat_lt.1 hhigh
      obtain ⟨d, ds, hds, -⟩ := toDigits_eq_cons n
      have hd : d.isDigit = true :=
        isDigit_toDigits n d (hds ▸ List.mem_cons_self)
      rw [text_ofNat, hds, List.cons_append, readValue_digit hd,
        ← List.cons_append, ← hds, readNumber_toDigits false hn hrest]
      rfl
  | negSucc n =>
      have hn : n + 1 ≤ Word.size 63 := by
        rw [Int.negSucc_eq] at hlow
        omega
      have hsize : Word.size 63 < Word.size 64 := by decide
      rw [text_negSucc, List.cons_append, readValue, skip_cons (by decide)]
      show (readNumber true _).map _ = _
      rw [readNumber_toDigits true (Nat.lt_of_le_of_lt hn hsize) hrest]
      have hfits : (decide (0 < n + 1) && decide (n + 1 ≤ Word.size 63))
          = true := by simp [hn]
      rw [hfits]
      rfl

/-- The text of a value is read back, with whatever may follow it. -/
theorem readValue_text {depth : Nat} {v : Value} (h : Plain depth v)
    {fuel : Nat} {rest : List Char}
    (hfuel : v.text.toList.length ≤ fuel) (hrest : Ends rest) :
    readValue fuel depth (v.text.toList ++ rest) = some (v, rest) := by
  induction h generalizing fuel rest with
  | str depth s =>
      obtain ⟨fuel, rfl⟩ := (Plain.str depth s).exists_fuel hfuel
      exact readValue_str fuel depth s rest
  | int depth hlow hhigh =>
      obtain ⟨fuel, rfl⟩ := (Plain.int depth hlow hhigh).exists_fuel hfuel
      exact readValue_int fuel depth hlow hhigh hrest
  | @arr depth items hitems ih =>
      obtain ⟨fuel, rfl⟩ := (Plain.arr hitems).exists_fuel hfuel
      rw [text_arr] at hfuel ⊢
      rw [List.cons_append, List.append_assoc, List.singleton_append]
      cases items with
      | nil =>
          show readValue (fuel + 1) (depth + 1) ('[' :: ']' :: rest) = _
          rw [readValue, skip_cons (by decide)]
          rfl
      | cons v items =>
          obtain ⟨c, cs, hv, hblank, hclose⟩ :=
            (hitems v List.mem_cons_self).text_eq_cons
          obtain ⟨more, hmore⟩ := itemsText_prefix v items
          rw [List.length_cons, List.length_append] at hfuel
          have hfuel : (itemsText true (v :: items)).toList.length < fuel := by
            rw [List.length_singleton] at hfuel
            omega
          have hfirst : (itemsText true (v :: items)).toList ++ ']' :: rest
              = c :: (cs ++ (more ++ ']' :: rest)) := by
            rw [← hmore, hv, List.append_assoc, List.cons_append]
          rw [hfirst, readValue_items hblank hclose, ← hfirst,
            readItems_text _ (List.cons_ne_nil v items) [] rest hfuel]
          · rfl
          · exact fun w hw fuel rest hle hends => ih w hw hle hends

/-- The text of a value is a document of that value. -/
theorem parse?_text {v : Value} (h : Plain maxDepth v) :
    parse? v.text = some v := by
  have hfuel : v.text.toList.length ≤ 2 * v.text.toList.length + 2 := by
    omega
  have hread := readValue_text h hfuel ends_nil
  unfold parse?
  rw [List.append_nil] at hread
  simp only [hread]
  rfl

-- ========================================================== searching

/-- A pattern that the syntax of a document is no part of: it starts
with no character of a number or an escape, none of its characters is
escaped, and none belongs to an array. -/
structure Foreign (first : Char) (more : List Char) : Prop where
  start : first ∉ escapes
  number : first.isDigit = false ∧ first ≠ '-'
  self : ∀ c ∈ first :: more, escapeChar c = [c]
  array : ∀ c ∈ first :: more, c ≠ '[' ∧ c ≠ ']' ∧ c ≠ ','

namespace Foreign

variable {first : Char} {more : List Char}

/-- A foreign pattern occurs in a written text where it occurs in the
text. -/
theorem infix_str_iff (hp : Foreign first more) (s : String) :
    first :: more <:+: (Value.str s).text.toList
      ↔ first :: more <:+: s.toList := by
  have hquote : '"' ∉ first :: more :=
    fun h => absurd (hp.self _ h) (by decide)
  have hwritten := (shows_escape hp.start hp.self).infix_iff s.toList
  have hletters : (first :: more).flatMap escapeChar = first :: more := by
    rw [List.flatMap_congr hp.self, List.flatMap_singleton']
  rw [hletters] at hwritten
  rw [text_str, ← List.nil_append ('"' :: _),
    Text.infix_append_cons hquote, Text.infix_append_cons hquote, hwritten]
  simp

/-- A foreign pattern occurs in no number. -/
theorem not_infix_int (hp : Foreign first more) (n : Int) :
    ¬ first :: more <:+: (Value.ofInt n).text.toList := by
  intro h
  have hmem : first ∈ (Value.ofInt n).text.toList :=
    h.subset List.mem_cons_self
  have hdigit : ∀ m : Nat, first ∉ Nat.toDigits 10 m := by
    intro m hm
    have := isDigit_toDigits m first hm
    rw [hp.number.1] at this
    cases this
  cases n with
  | ofNat n =>
      rw [text_ofNat] at hmem
      exact hdigit n hmem
  | negSucc n =>
      rw [text_negSucc, List.mem_cons] at hmem
      rcases hmem with hminus | hmem
      · exact hp.number.2 hminus
      · exact hdigit (n + 1) hmem

/-- A foreign pattern occurs among items where it occurs in one. -/
theorem infix_items_iff (hp : Foreign first more) (items : List Value) :
    first :: more <:+: (itemsText true items).toList
      ↔ ∃ v ∈ items, first :: more <:+: v.text.toList := by
  have hcomma : ',' ∉ first :: more := fun h => (hp.array _ h).2.2 rfl
  induction items with
  | nil => simp [itemsText]
  | cons v items ih =>
      cases items with
      | nil => simp [itemsText_single]
      | cons w items =>
          rw [itemsText_cons, Text.infix_append_cons hcomma]
          constructor
          · rintro (h | h)
            · exact ⟨v, List.mem_cons_self, h⟩
            · obtain ⟨x, hx, h⟩ := ih.1 h
              exact ⟨x, List.mem_cons_of_mem v hx, h⟩
          · rintro ⟨x, hx, h⟩
            rcases List.mem_cons.1 hx with rfl | hx
            · exact Or.inl h
            · exact Or.inr (ih.2 ⟨x, hx, h⟩)

/-- A foreign pattern occurs in the text of a value exactly when it
occurs in a text that the value holds. -/
theorem infix_text_iff (hp : Foreign first more) {depth : Nat} {v : Value}
    (h : Plain depth v) :
    first :: more <:+: v.text.toList
      ↔ ∃ s, Within s v ∧ first :: more <:+: s.toList := by
  induction h with
  | str depth s =>
      rw [hp.infix_str_iff]
      constructor
      · exact fun h => ⟨s, Within.here, h⟩
      · rintro ⟨t, ht, h⟩
        cases ht
        exact h
  | @int depth n hlow hhigh =>
      refine ⟨fun h => absurd h (hp.not_infix_int n), ?_⟩
      rintro ⟨t, ht, -⟩
      cases ht
  | @arr depth items hitems ih =>
      have hopen : '[' ∉ first :: more := fun h => (hp.array _ h).1 rfl
      have hclose : ']' ∉ first :: more := fun h => (hp.array _ h).2.1 rfl
      rw [text_arr, ← List.nil_append ('[' :: _),
        Text.infix_append_cons hopen, Text.infix_append_cons hclose,
        hp.infix_items_iff]
      constructor
      · rintro (h | ⟨v, hv, h⟩ | h)
        · exact absurd (List.infix_nil.1 h) (List.cons_ne_nil _ _)
        · obtain ⟨s, hs, h⟩ := (ih v hv).1 h
          exact ⟨s, Within.item hv hs, h⟩
        · exact absurd (List.infix_nil.1 h) (List.cons_ne_nil _ _)
      · rintro ⟨t, ht, h⟩
        cases ht with
        | item hv ht =>
            exact Or.inr (Or.inl ⟨_, hv, (ih _ hv).2 ⟨t, ht, h⟩⟩)

end Foreign

end Gatewatch.Json
