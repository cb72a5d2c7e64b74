/-
Frames: what comes back from the bytes of a frame.

# The boundary

The end of a frame is found by searching its bytes for the end mark, and
nothing in the body is kept from looking like one. The mark that is put
behind a body is the first one exactly when the body holds none
(`cut_append_endMark`): an occurrence that reaches into it would have the
first byte of the mark once more inside. When the body holds the mark,
the cut falls too early and leaves bytes behind (`cut_early`).

# The condition

The body is the JSON text of a value in UTF-8. The mark is ASCII and no
syntax of a document, so it is in the body exactly when it is in a text
that the value holds (`endMark_infix_iff`). Requests and replies without
such a text come back whole, and no others do.
-/
import Gatewatch.Proofs.Json.RoundTrip
import Gatewatch.Wire.Frame
import Gatewatch.Wire.Message

namespace Gatewatch.Wire

open Json (Value Plain Within)

-- ============================================================ the cut

/-- The bytes of the end mark, the first one apart: it is not met
again. -/
theorem endMark_eq :
    ∃ more : List UInt8, endMark = 60 :: more ∧ 60 ∉ more := by
  refine ⟨endMark.tail, ?_, ?_⟩
  · unfold endMark endText
    rw [Text.Utf8.encode_eq]
    decide +kernel
  · unfold endMark endText
    rw [Text.Utf8.encode_eq]
    decide +kernel

/-- The mark does not start inside a body and end in the mark behind
it. -/
theorem prefix_of_append_endMark {b : UInt8} {body : List UInt8}
    (h : endMark <+: b :: body ++ endMark) : endMark <+: b :: body := by
  rcases List.prefix_or_prefix_of_prefix h
    (List.prefix_append (b :: body) endMark) with hp | ⟨t, ht⟩
  · exact hp
  · cases t with
    | nil => exact ⟨[], by rw [← ht, List.append_nil, List.append_nil]⟩
    | cons x t =>
        -- the rest of the mark would start with the mark's first byte
        obtain ⟨more, hmark, hfresh⟩ := endMark_eq
        nth_rewrite 1 [← ht] at h
        rw [List.prefix_append_right_inj, hmark, List.cons_prefix_cons] at h
        rw [hmark, List.cons_append] at ht
        injection ht with _ hmore
        rw [← hmore, ← h.1] at hfresh
        exact absurd (List.mem_append_right body List.mem_cons_self) hfresh

/-- The mark does not start inside a body without it that a mark
follows. -/
theorem not_prefix_of_append_endMark {b : UInt8} {body : List UInt8}
    (h : ¬ endMark <:+: b :: body) (rest : List UInt8) :
    ¬ endMark <+: b :: (body ++ endMark ++ rest) := by
  intro hp
  have hshort : endMark <+: b :: body ++ endMark :=
    List.prefix_of_prefix_length_le hp ⟨rest, rfl⟩ (by
      rw [List.length_append]
      exact Nat.le_add_left _ _)
  exact h (prefix_of_append_endMark hshort).isInfix

/-- A body without the mark is cut off whole. -/
theorem cut_append_endMark {body : List UInt8}
    (h : ¬ endMark <:+: body) (rest : List UInt8) :
    cut (body ++ endMark ++ rest) = some (body, rest) := by
  have hcut : ∀ done, cutFrom done (body ++ endMark ++ rest)
      = some (done.reverse ++ body, rest) := by
    induction body with
    | nil =>
        intro done
        obtain ⟨more, hmark, -⟩ := endMark_eq
        have hhere : endMark.isPrefixOf (60 :: (more ++ rest)) = true := by
          rw [List.isPrefixOf_iff_prefix, ← List.cons_append, ← hmark]
          exact List.prefix_append endMark rest
        rw [List.nil_append, List.append_nil, hmark, List.cons_append,
          cutFrom, if_pos hhere, ← List.cons_append, ← hmark, List.drop_left]
    | cons b body ih =>
        intro done
        have hhere : ¬ endMark.isPrefixOf (b :: (body ++ endMark ++ rest))
            = true := by
          rw [List.isPrefixOf_iff_prefix]
          exact not_prefix_of_append_endMark h rest
        have hthere : ¬ endMark <:+: body :=
          fun hi => h (List.infix_cons_iff.2 (Or.inr hi))
        rw [List.cons_append, List.cons_append, cutFrom, if_neg hhere,
          ih hthere, List.reverse_cons, List.append_assoc,
          List.singleton_append]
  exact hcut []

/-- The cut falls no later than an occurrence of the mark. -/
theorem cut_early (before after : List UInt8) :
    ∃ body rest, cut (before ++ endMark ++ after) = some (body, rest)
      ∧ after.length ≤ rest.length := by
  have hcut : ∀ done, ∃ body rest,
      cutFrom done (before ++ endMark ++ after) = some (body, rest)
        ∧ after.length ≤ rest.length := by
    induction before with
    | nil =>
        intro done
        obtain ⟨more, hmark, -⟩ := endMark_eq
        have hstart : endMark.isPrefixOf (60 :: (more ++ after)) = true := by
          rw [List.isPrefixOf_iff_prefix, ← List.cons_append, ← hmark]
          exact List.prefix_append endMark after
        refine ⟨done.reverse, after, ?_, Nat.le_refl _⟩
        rw [List.nil_append, hmark, List.cons_append, cutFrom,
          if_pos hstart, ← List.cons_append, ← hmark, List.drop_left]
    | cons b before ih =>
        intro done
        rw [List.cons_append, List.cons_append, cutFrom]
        split
        · refine ⟨_, _, rfl, ?_⟩
          rw [List.length_drop, List.length_cons, List.length_append,
            List.length_append]
          omega
        · exact ih (b :: done)
  exact hcut []

-- =========================================================== the mark

/-- What a test finds to hold of each character of the end mark. -/
theorem forall_mem_endText {p : Char → Prop} [DecidablePred p]
    (h : (endText.toList.all fun c => decide (p c)) = true) :
    ∀ c ∈ endText.toList, p c :=
  fun c hc => of_decide_eq_true (List.all_eq_true.1 h c hc)

/-- The end mark is no syntax of a document. -/
theorem foreign_endText :
    Json.Foreign '<' "F2B_END_COMMAND>".toList where
  start := by decide
  number := by decide
  self := forall_mem_endText (by decide +kernel)
  array := forall_mem_endText (by decide +kernel)

/-- The mark is in the body of a value exactly when it is in a text that
the value holds. -/
theorem endMark_infix_iff {depth : Nat} {v : Value} (h : Plain depth v) :
    endMark <:+: Text.Utf8.encode v.text
      ↔ ∃ s, Within s v ∧ endText.toList <:+: s.toList := by
  unfold endMark
  rw [Text.Utf8.encode_infix_iff (by decide)
    (forall_mem_endText (by decide +kernel))]
  exact foreign_endText.infix_text_iff h

-- ========================================================== the frame

/-- An empty buffer holds no frame. -/
theorem decode_nil : decode [] = (.incomplete, []) := rfl

/-- The bytes of a frame that is not too long. -/
theorem encode_eq_ok {v : Value} {bytes : List UInt8}
    (h : encode v = .ok bytes) :
    (Text.Utf8.encode v.text).length ≤ maxFrame
      ∧ bytes = Text.Utf8.encode v.text ++ endMark := by
  unfold encode at h
  change (if maxFrame < (Text.Utf8.encode v.text).length then _
    else Except.ok (Text.Utf8.encode v.text ++ endMark)) = _ at h
  split at h
  case isTrue => cases h
  case isFalse hlen =>
    injection h with h
    exact ⟨Nat.le_of_not_lt hlen, h.symm⟩

/-- A value comes back alone and whole when no text in it holds the
mark. -/
theorem decode_encode {v : Value} {bytes : List UInt8}
    (hv : Plain Json.maxDepth v) (henc : encode v = .ok bytes)
    (hclean : ∀ s, Within s v → ¬ endText.toList <:+: s.toList) :
    decode bytes = (.frame v, []) := by
  obtain ⟨hlen, rfl⟩ := encode_eq_ok henc
  have hbody : ¬ endMark <:+: Text.Utf8.encode v.text := by
    rw [endMark_infix_iff hv]
    rintro ⟨s, hs, hmark⟩
    exact hclean s hs hmark
  have hread : readBody (Text.Utf8.encode v.text) = some v := by
    unfold readBody
    rw [Text.Utf8.fromUTF8?_encode]
    exact Json.parse?_text hv
  have hcut := cut_append_endMark hbody []
  rw [List.append_nil] at hcut
  unfold decode
  rw [hcut]
  dsimp only
  rw [if_neg (Nat.not_lt.2 hlen), hread]

/-- Bytes are left behind when a text in the value holds the mark. -/
theorem decode_encode_left {v : Value} {bytes : List UInt8}
    {depth : Nat} (hv : Plain depth v) (henc : encode v = .ok bytes)
    {s : String} (hs : Within s v) (hmark : endText.toList <:+: s.toList) :
    (decode bytes).2 ≠ [] := by
  obtain ⟨-, rfl⟩ := encode_eq_ok henc
  obtain ⟨before, after, hbody⟩ := (endMark_infix_iff hv).2 ⟨s, hs, hmark⟩
  obtain ⟨body, rest, hcut, hlen⟩ := cut_early before (after ++ endMark)
  have hrest : rest ≠ [] := by
    obtain ⟨more, hmore, -⟩ := endMark_eq
    intro hnil
    rw [hnil, hmore, List.length_append, List.length_cons] at hlen
    cases hlen
  rw [← List.append_assoc, hbody] at hcut
  unfold decode
  rw [hcut]
  dsimp only
  split
  case isTrue => exact hrest
  case isFalse => split <;> exact hrest

-- =============================================== requests and replies

/-- The texts of a request are its words. -/
theorem within_strings {s : String} {args : List String} :
    Within s (Value.strings args) ↔ s ∈ args := by
  unfold Value.strings
  constructor
  · intro h
    cases h with
    | item hv hs =>
        obtain ⟨a, ha, rfl⟩ := List.mem_map.1 hv
        cases hs
        exact ha
  · exact fun h => .item (List.mem_map_of_mem h) .here

theorem plain_strings (args : List String) :
    Plain Json.maxDepth (Value.strings args) := by
  refine Plain.arr fun v hv => ?_
  obtain ⟨a, -, rfl⟩ := List.mem_map.1 hv
  exact Plain.str _ a

/-- A request is read back word by word. -/
theorem readRequest_strings {args : List String} (h : args ≠ []) :
    readRequest (Value.strings args) = .ok args := by
  have hread : (args.map Value.str).mapM readWord
      = (Except.ok args : Outcome (List String)) := by
    induction args with
    | nil => rfl
    | cons a args ih =>
        cases args with
        | nil => rfl
        | cons b args =>
            rw [List.map_cons, List.mapM_cons, ih (List.cons_ne_nil b args)]
            rfl
  cases args with
  | nil => exact absurd rfl h
  | cons a args => exact hread

/-- The texts of a reply are those of its value. -/
theorem within_reply {s : String} {reply : Reply} :
    Within s reply.toValue ↔ Within s reply.value := by
  unfold Reply.toValue
  constructor
  · intro h
    cases h with
    | item hv hs =>
        rcases List.mem_cons.1 hv with rfl | hv
        · cases hs
        · rw [List.mem_singleton.1 hv] at hs
          exact hs
  · exact fun h =>
      .item (List.mem_cons_of_mem _ (List.mem_singleton.2 rfl)) h

/-- A code that a reply may have: it fits 32 bits. -/
def IsCode (n : Int) : Prop := -(Word.size 31 : Int) ≤ n ∧ n < Word.size 31

theorem plain_reply {reply : Reply} {depth : Nat}
    (hcode : IsCode reply.code) (hvalue : Plain depth reply.value) :
    Plain (depth + 1) reply.toValue := by
  have h31 : (Word.size 31 : Int) ≤ Word.size 63 := by decide
  have h32 : (Word.size 31 : Int) ≤ Word.size 64 := by decide
  obtain ⟨hlow, hhigh⟩ := hcode
  refine Plain.arr fun v hv => ?_
  rcases List.mem_cons.1 hv with rfl | hv
  · exact Plain.int depth (by omega) (by omega)
  · rw [List.mem_singleton.1 hv]
    exact hvalue

/-- A reply is read back. -/
theorem ofValue_toValue {reply : Reply} (hcode : IsCode reply.code) :
    Reply.ofValue reply.toValue = .ok reply := by
  have hread : Reply.code? (.ofInt reply.code) = some reply.code := by
    show (if -(Word.size 31 : Int) ≤ reply.code
      && reply.code < Word.size 31 then some reply.code else none) = _
    rw [if_pos (by simpa [IsCode] using hcode)]
  unfold Reply.toValue Reply.ofValue
  simp only [hread]

-- ============================================================ the law

/-- What is framed comes back, alone and whole, exactly when no text in
it holds the end mark: a request of one word or more, and a reply whose
value is made of texts, whole numbers and lists. -/
theorem frame_comes_back_iff (bytes : List UInt8) :
    (∀ args : List String, args ≠ [] →
      encode (Value.strings args) = .ok bytes →
      ((∃ v, decode bytes = (.frame v, []) ∧ readRequest v = .ok args)
        ↔ ∀ a ∈ args, ¬ endText.toList <:+: a.toList))
    ∧ (∀ (reply : Reply) (depth : Nat),
      IsCode reply.code → Plain depth reply.value →
      depth < Json.maxDepth → encode reply.toValue = .ok bytes →
      ((∃ v, decode bytes = (.frame v, []) ∧ Reply.ofValue v = .ok reply)
        ↔ ∀ s, Within s reply.value → ¬ endText.toList <:+: s.toList))
    ∧ decode [] = (.incomplete, []) := by
  refine ⟨?_, ?_, decode_nil⟩
  · intro args hne henc
    have hplain := plain_strings args
    constructor
    · rintro ⟨v, hdec, -⟩ a ha hmark
      have hleft := decode_encode_left hplain henc
        (within_strings.2 ha) hmark
      rw [hdec] at hleft
      exact hleft rfl
    · intro hclean
      refine ⟨_, decode_encode hplain henc ?_, readRequest_strings hne⟩
      exact fun s hs => hclean s (within_strings.1 hs)
  · intro reply depth hcode hvalue hdepth henc
    have hplain := (plain_reply hcode hvalue).mono hdepth
    constructor
    · rintro ⟨v, hdec, -⟩ s hs hmark
      have hleft := decode_encode_left hplain henc
        (within_reply.2 hs) hmark
      rw [hdec] at hleft
      exact hleft rfl
    · intro hclean
      refine ⟨_, decode_encode hplain henc ?_, ofValue_toValue hcode⟩
      exact fun s hs => hclean s (within_reply.1 hs)

/-- A request with quotes, a line feed and the beginning of a mark. -/
def patternRequest : List String :=
  ["set", "ssh", "addfailregex", "\"<HOST>\"\n", "<F2B_END"]

/-- A reply with a list of texts and a number. -/
def listReply : Reply :=
  .ok (.arr [.strings ["é <HOST>", ""], .ofInt (-1)])

/-- A word that holds no mark comes back, and so do a request of several
words and a reply. -/
theorem ping_comes_back :
    (∃ bytes v, encode (Value.strings ["ping"]) = .ok bytes
      ∧ decode bytes = (.frame v, []) ∧ readRequest v = .ok ["ping"])
    ∧ (∃ bytes v, encode (Value.strings patternRequest) = .ok bytes
      ∧ decode bytes = (.frame v, [])
      ∧ readRequest v = .ok patternRequest)
    ∧ ∃ bytes v, encode listReply.toValue = .ok bytes
      ∧ decode bytes = (.frame v, []) ∧ Reply.ofValue v = .ok listReply := by
  have henc : ∀ v : Value,
      ¬ maxFrame < (Text.Utf8.encode v.text).length →
        encode v = .ok (Text.Utf8.encode v.text ++ endMark) :=
    fun v hshort => if_neg hshort
  refine ⟨?_, ?_, ?_⟩
  · have hping := henc (Value.strings ["ping"]) (by decide +kernel)
    obtain ⟨v, hv⟩ := ((frame_comes_back_iff _).1 ["ping"]
      (List.cons_ne_nil _ _) hping).2 (by decide +kernel)
    exact ⟨_, v, hping, hv⟩
  · have hrequest := henc (Value.strings patternRequest) (by decide +kernel)
    obtain ⟨v, hv⟩ := ((frame_comes_back_iff _).1 patternRequest
      (List.cons_ne_nil _ _) hrequest).2 (by decide +kernel)
    exact ⟨_, v, hrequest, hv⟩
  · have hreply := henc listReply.toValue (by decide +kernel)
    have hplain : Plain 2 listReply.value := by
      have htexts : Plain 1 (.strings ["é <HOST>", ""]) :=
        .arr (by simp [Plain.str])
      have hnumber : Plain 1 (.ofInt (-1)) := .int 1 (by decide) (by decide)
      exact .arr (by simp [htexts, hnumber])
    have hwithin : ∀ text, Within text listReply.value →
        text ∈ ["é <HOST>", ""] := by
      intro text htext
      cases htext with
      | item hv hs =>
          simp only [List.mem_cons, List.not_mem_nil, or_false] at hv
          rcases hv with rfl | rfl
          · exact within_strings.1 hs
          · cases hs
    have habsent : ∀ text ∈ ["é <HOST>", ""],
        ¬ endText.toList <:+: text.toList := by
      decide +kernel
    obtain ⟨v, hv⟩ := ((frame_comes_back_iff _).2.1 listReply 2
      ⟨by decide, by decide⟩ hplain (by decide) hreply).2
        fun text htext => habsent text (hwithin text htext)
    exact ⟨_, v, hreply, hv⟩

/-- A request whose one word is the end mark: what comes back is a
malformed frame, with the end of the request left behind it. -/
theorem mark_does_not_come_back :
    ∃ bytes, encode (Value.strings [endText]) = .ok bytes
      ∧ decode bytes = (.fault .malformed,
          Text.Utf8.encode "\"]<F2B_END_COMMAND>")
      ∧ ¬ ∃ v, decode bytes = (.frame v, [])
          ∧ readRequest v = .ok [endText] := by
  have hcut : cut (Text.Utf8.encode (Value.strings [endText]).text ++ endMark)
      = some (Text.Utf8.encode "[\"",
          Text.Utf8.encode "\"]<F2B_END_COMMAND>") := by
    decide +kernel
  have hbody : readBody (Text.Utf8.encode "[\"") = none := by
    unfold readBody
    rw [Text.Utf8.fromUTF8?_encode]
    rfl
  have hdec : decode (Text.Utf8.encode (Value.strings [endText]).text
      ++ endMark) = (.fault .malformed,
        Text.Utf8.encode "\"]<F2B_END_COMMAND>") := by
    unfold decode
    rw [hcut]
    dsimp only
    rw [if_neg (by decide +kernel), hbody]
  refine ⟨_, if_neg (by decide +kernel), hdec, ?_⟩
  rintro ⟨v, hv, -⟩
  rw [hdec] at hv
  cases hv

end Gatewatch.Wire
