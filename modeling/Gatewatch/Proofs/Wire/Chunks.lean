/-
Frames that arrive in chunks: what is taken does not depend on where the
bytes were cut.

# Two things at once

A receiver is asked for frames between two chunks, and it remembers how
far it searched. The memory is no part of what it does: as long as no
mark lies within what was searched (`Receiver.Sound`), the mark it finds
is the first one of its buffer (`findMark?_at_mark`). The search goes
back by one byte less than a mark, for a mark that the next chunk
completes may begin there.

The stretches of a stream are what its marks leave (`Stretches`). A cut
of the stream anywhere leaves whole stretches before it and the
beginning of one (`Stretches.split`), which may hold all of a mark but
its last byte. So the bytes that are kept are fewer than those of a
stretch and a mark, and a receiver gives up on a stretch that is too
long only (`receive_of_stretches`). A stretch that is too long is given
up on before its mark or with it, which depends on the chunks, but no
chunks make a frame of it (`receive_of_overlong`).
-/
import Gatewatch.Proofs.Wire.Frame
import Gatewatch.Wire.Receiver

namespace Gatewatch.Wire

-- ======================================================= the first mark

/-- No mark is within some bytes. -/
def Clean (bytes : List UInt8) : Prop := ¬ endMark <:+: bytes

instance (bytes : List UInt8) : Decidable (Clean bytes) :=
  inferInstanceAs (Decidable (¬ _))

theorem Clean.of_infix {part bytes : List UInt8} (h : Clean bytes)
    (hp : part <:+: bytes) : Clean part :=
  fun hmark => h (hmark.trans hp)

theorem endMark_pos : 0 < endMark.length := by
  obtain ⟨more, hmark, -⟩ := endMark_eq
  rw [hmark]
  exact Nat.succ_pos _

theorem clean_nil : Clean [] :=
  fun h => absurd h.length_le (Nat.not_le.2 endMark_pos)

/-- Bytes are clean, or there is a first mark in them. -/
theorem clean_or_first_mark (bytes : List UInt8) :
    Clean bytes
      ∨ ∃ body rest, Clean body ∧ bytes = body ++ endMark ++ rest := by
  induction bytes with
  | nil => exact .inl clean_nil
  | cons b bytes ih =>
      by_cases hhere : endMark <+: b :: bytes
      · obtain ⟨rest, hrest⟩ := hhere
        exact .inr ⟨[], rest, clean_nil, hrest.symm⟩
      · rcases ih with hclean | ⟨body, rest, hbody, rfl⟩
        · refine .inl fun hmark => ?_
          rcases List.infix_cons_iff.1 hmark with hp | hi
          · exact hhere hp
          · exact hclean hi
        · refine .inr ⟨b :: body, rest, fun hmark => ?_, rfl⟩
          rcases List.infix_cons_iff.1 hmark with hp | hi
          · exact hhere (hp.trans ⟨endMark ++ rest, by simp⟩)
          · exact hbody hi

/-- The search does not find what is not there. -/
theorem markFrom?_of_clean {bytes : List UInt8} (h : Clean bytes)
    (position : Nat) : markFrom? position bytes = none := by
  induction bytes generalizing position with
  | nil => rfl
  | cons b bytes ih =>
      have hhere : ¬ endMark.isPrefixOf (b :: bytes) = true :=
        fun hp => h (List.isPrefixOf_iff_prefix.1 hp).isInfix
      rw [markFrom?, if_neg hhere]
      exact ih (h.of_infix (List.suffix_cons b bytes).isInfix) _

/-- The search stops at the first mark. -/
theorem markFrom?_at_mark {body : List UInt8} (h : Clean body)
    (rest : List UInt8) (position : Nat) :
    markFrom? position (body ++ endMark ++ rest)
      = some (position + body.length) := by
  induction body generalizing position with
  | nil =>
      obtain ⟨more, hmark, -⟩ := endMark_eq
      have hhere : endMark.isPrefixOf (60 :: (more ++ rest)) = true := by
        rw [List.isPrefixOf_iff_prefix, ← List.cons_append, ← hmark]
        exact List.prefix_append endMark rest
      rw [List.nil_append, hmark, List.cons_append, markFrom?, if_pos hhere]
      rfl
  | cons b body ih =>
      have hhere : ¬ endMark.isPrefixOf (b :: (body ++ endMark ++ rest))
          = true := by
        rw [List.isPrefixOf_iff_prefix]
        exact not_prefix_of_append_endMark h rest
      have hbody := h.of_infix (List.suffix_cons b body).isInfix
      rw [List.cons_append, List.cons_append, markFrom?, if_neg hhere,
        ih hbody, List.length_cons]
      congr 1
      omega

/-- There is one first mark. -/
theorem first_mark_unique {body body' rest rest' : List UInt8}
    (h : Clean body) (h' : Clean body')
    (heq : body ++ endMark ++ rest = body' ++ endMark ++ rest') :
    body = body' ∧ rest = rest' := by
  have hlen : body.length = body'.length := by
    have hfound := markFrom?_at_mark h rest 0
    rw [heq, markFrom?_at_mark h' rest' 0] at hfound
    injection hfound with hfound
    omega
  rw [List.append_assoc, List.append_assoc] at heq
  obtain ⟨hbody, hmore⟩ := List.append_inj heq hlen
  exact ⟨hbody, List.append_cancel_left hmore⟩

/-- What begins with a mark's bytes but ends before it is as clean as
what is before the mark. -/
theorem clean_of_before_mark {body part : List UInt8} (h : Clean body)
    (hp : part <+: body ++ endMark)
    (hlen : part.length < (body ++ endMark).length) : Clean part := by
  rcases clean_or_first_mark part with hclean | ⟨body', rest', hbody', rfl⟩
  · exact hclean
  · obtain ⟨more, hmore⟩ := hp
    have heq : body ++ endMark ++ [] = body' ++ endMark ++ (rest' ++ more) := by
      rw [List.append_nil, ← hmore, List.append_assoc]
    have hnil := (first_mark_unique h hbody' heq).2
    rw [← hmore, (List.append_eq_nil_iff.1 hnil.symm).2] at hlen
    simp at hlen

-- ========================================================== the receiver

/-- Before its mark, a body that is not too long is read. -/
theorem judge_of_le {body : List UInt8} (h : body.length ≤ maxFrame) :
    judge body = match readBody body with
      | some v => .frame v
      | none => .fault .malformed :=
  if_neg (Nat.not_lt.2 h)

theorem judge_of_lt {body : List UInt8} (h : maxFrame < body.length) :
    judge body = .fault .tooLong :=
  if_pos h

/-- A body with its mark comes to something. -/
theorem judge_ne_incomplete (body : List UInt8) :
    judge body ≠ .incomplete := by
  unfold judge
  split
  · nofun
  · split <;> nofun

namespace Receiver

/-- What was searched has arrived, and there is no mark in it. -/
structure Sound (r : Receiver) : Prop where
  arrived : r.searched ≤ r.buffer.length
  clean : Clean (r.buffer.take r.searched)

/-- All that has arrived was searched, and there is no mark in it. -/
structure Settled (r : Receiver) : Prop where
  searched : r.searched = r.buffer.length
  clean : Clean r.buffer

theorem Sound.start (bytes : List UInt8) :
    Sound { buffer := bytes } where
  arrived := Nat.zero_le _
  clean := clean_nil

theorem Settled.start : Settled {} where
  searched := rfl
  clean := clean_nil

theorem Settled.sound {r : Receiver} (h : r.Settled) : r.Sound where
  arrived := Nat.le_of_eq h.searched
  clean := h.clean.of_infix (List.take_prefix _ _).isInfix

/-- What arrives does not change what was searched. -/
theorem Sound.feed {r : Receiver} (h : r.Sound) (bytes : List UInt8) :
    (r.feed bytes).Sound where
  arrived := by
    show r.searched ≤ (r.buffer ++ bytes).length
    rw [List.length_append]
    exact Nat.le_trans h.arrived (Nat.le_add_right _ _)
  clean := by
    show Clean ((r.buffer ++ bytes).take r.searched)
    rw [List.take_append_of_le_length h.arrived]
    exact h.clean

/-- A sound receiver finds no mark in a clean buffer. -/
theorem findMark?_of_clean {r : Receiver} (hclean : Clean r.buffer) :
    r.findMark? = none :=
  markFrom?_of_clean
    (hclean.of_infix (List.drop_suffix _ _).isInfix) _

/-- A sound receiver finds the first mark of its buffer. -/
theorem findMark?_at_mark {r : Receiver} {body rest : List UInt8}
    (h : r.Sound) (hbody : Clean body)
    (hr : r.buffer = body ++ endMark ++ rest) :
    r.findMark? = some body.length := by
  -- all of the mark would have been searched otherwise
  have hsearched : r.searched < (body ++ endMark).length := by
    by_contra hlong
    refine h.clean ((List.infix_append' body endMark []).trans ?_)
    rw [List.append_nil, hr]
    exact (List.prefix_of_prefix_length_le (List.prefix_append _ rest)
      (List.take_prefix _ _) (by
        have := h.arrived
        rw [hr] at this
        rw [List.length_take]
        omega)).isInfix
  have hmark := endMark_pos
  rw [List.length_append] at hsearched
  have hstart : r.searched - (endMark.length - 1) ≤ body.length := by omega
  unfold findMark?
  dsimp only
  rw [hr, List.append_assoc, List.drop_append_of_le_length hstart,
    ← List.append_assoc, markFrom?_at_mark
      (hbody.of_infix (List.drop_suffix _ _).isInfix), List.length_drop]
  congr 1
  omega

/-- A clean buffer is kept; there may be too much of it. -/
theorem decode_of_clean {r : Receiver} (hclean : Clean r.buffer) :
    r.decode = if maxFrame + endMark.length < r.buffer.length
      then (.fault .unterminated, r)
      else (.incomplete, { r with searched := r.buffer.length }) := by
  unfold decode
  rw [findMark?_of_clean hclean]

/-- The bytes up to the first mark are taken, and nothing is left of the
memory. -/
theorem decode_at_mark {r : Receiver} {body rest : List UInt8}
    (h : r.Sound) (hbody : Clean body)
    (hr : r.buffer = body ++ endMark ++ rest) :
    r.decode = (judge body, { buffer := rest }) := by
  unfold decode
  rw [findMark?_at_mark h hbody hr]
  dsimp only
  rw [hr, List.append_assoc, List.take_left, ← List.append_assoc,
    ← List.length_append, List.drop_left]

/-- What is searched is sound again after each call. -/
theorem Sound.decode {r : Receiver} (h : r.Sound) : r.decode.2.Sound := by
  rcases clean_or_first_mark r.buffer with hclean | ⟨body, rest, hbody, hr⟩
  · rw [decode_of_clean hclean]
    split
    · exact h
    · exact Settled.sound ⟨rfl, hclean⟩
  · rw [decode_at_mark h hbody hr]
    exact .start rest

end Receiver

/-- There is no cut without a mark. -/
theorem cut_of_clean {bytes : List UInt8} (h : Clean bytes) :
    cut bytes = none := by
  have hcut : ∀ done, cutFrom done bytes = none := by
    induction bytes with
    | nil => exact fun _ => rfl
    | cons b bytes ih =>
        intro done
        have hhere : ¬ endMark.isPrefixOf (b :: bytes) = true :=
          fun hp => h (List.isPrefixOf_iff_prefix.1 hp).isInfix
        rw [cutFrom, if_neg hhere]
        exact ih (h.of_infix (List.suffix_cons b bytes).isInfix) _
  exact hcut []

/-- The memory of a receiver is no part of what it takes: that is what
is taken out of its buffer at once. -/
theorem Receiver.decode_eq {r : Receiver} (h : r.Sound) :
    (r.decode.1, r.decode.2.buffer) = Wire.decode r.buffer := by
  rcases clean_or_first_mark r.buffer with hclean | ⟨body, rest, hbody, hr⟩
  · rw [decode_of_clean hclean, Wire.decode, cut_of_clean hclean]
    dsimp only
    split <;> rfl
  · rw [decode_at_mark h hbody hr, Wire.decode, hr, cut_append_endMark hbody rest]
    dsimp only
    unfold judge
    split
    · rfl
    · split <;> simp_all

namespace Receiver

/-- What is done with a receiver. -/
inductive Use where
  | feed (bytes : List UInt8)
  | decode

/-- The receiver behind a use. -/
def use (r : Receiver) : Use → Receiver
  | .feed bytes => r.feed bytes
  | .decode => r.decode.2

theorem Sound.use {r : Receiver} (h : r.Sound) (u : Use) :
    (r.use u).Sound := by
  cases u with
  | feed bytes => exact h.feed bytes
  | decode => exact h.decode

theorem Sound.uses {r : Receiver} (h : r.Sound) (uses : List Use) :
    (uses.foldl Receiver.use r).Sound := by
  induction uses generalizing r with
  | nil => exact h
  | cons u uses ih => exact ih (h.use u)

/-- Whatever was done with a receiver, it answers as the bytes in its
buffer alone do. -/
theorem memory_makes_no_difference (uses : List Use) :
    let r := uses.foldl use {}
    (r.decode.1, r.decode.2.buffer) = Wire.decode r.buffer :=
  decode_eq ((Sound.start []).uses uses)

end Receiver

-- ============================================================ the stream

/-- What the marks of a stream leave: the bytes before each mark, and
those behind the last one. -/
structure Stretches (stream : List UInt8) (bodies : List (List UInt8))
    (last : List UInt8) : Prop where
  joined : stream = bodies.flatMap (· ++ endMark) ++ last
  bodies : ∀ body ∈ bodies, Clean body
  last : Clean last

/-- Every stream has its stretches. -/
theorem exists_stretches (stream : List UInt8) :
    ∃ bodies last, Stretches stream bodies last := by
  rcases clean_or_first_mark stream with hclean | ⟨body, rest, hbody, hs⟩
  · exact ⟨[], stream, rfl, nofun, hclean⟩
  · obtain ⟨bodies, last, h⟩ := exists_stretches rest
    refine ⟨body :: bodies, last, ?_, ?_, h.last⟩
    · rw [hs, h.joined, List.flatMap_cons, List.append_assoc _ _ last]
    · exact List.forall_mem_cons.2 ⟨hbody, h.bodies⟩
termination_by stream.length
decreasing_by
  have hmark := endMark_pos
  rw [hs, List.length_append, List.length_append]
  omega

/-- The stretches behind the first body and its mark. -/
theorem Stretches.tail {stream body : List UInt8}
    {bodies : List (List UInt8)} {last : List UInt8}
    (h : Stretches stream (body :: bodies) last) :
    ∃ rest, stream = body ++ endMark ++ rest ∧ Stretches rest bodies last := by
  refine ⟨_, ?_, rfl, fun p hp => h.bodies p (List.mem_cons_of_mem _ hp),
    h.last⟩
  rw [h.joined, List.flatMap_cons, List.append_assoc _ _ last]

/-- A stream without a mark is one stretch. -/
theorem Stretches.of_clean {stream : List UInt8}
    {bodies : List (List UInt8)} {last : List UInt8}
    (h : Stretches stream bodies last) (hclean : Clean stream) :
    bodies = [] ∧ stream = last := by
  cases bodies with
  | nil => exact ⟨rfl, h.joined⟩
  | cons body bodies =>
      obtain ⟨rest, hrest, -⟩ := h.tail
      exact absurd ⟨body, rest, hrest.symm⟩ hclean

/-- The first stretch ends at the first mark. -/
theorem Stretches.of_mark {body rest : List UInt8}
    {bodies : List (List UInt8)} {last : List UInt8}
    (h : Stretches (body ++ endMark ++ rest) bodies last)
    (hbody : Clean body) : (bodies ++ [last]).head? = some body := by
  cases bodies with
  | nil => exact absurd ⟨body, rest, h.joined⟩ h.last
  | cons first bodies =>
      obtain ⟨rest', hrest, -⟩ := h.tail
      have hfirst := h.bodies first List.mem_cons_self
      rw [(first_mark_unique hbody hfirst hrest).1]
      rfl

/-- A stream cut anywhere: the stretches that are whole before the cut,
and what the cut leaves of the next one. -/
theorem Stretches.split {early late : List UInt8}
    {bodies : List (List UInt8)} {last : List UInt8}
    (h : Stretches (early ++ late) bodies last) :
    ∃ before after kept, bodies = before ++ after
      ∧ Stretches early before kept ∧ Stretches (kept ++ late) after last
      ∧ ∃ p ∈ bodies ++ [last], kept.length < p.length + endMark.length := by
  induction bodies generalizing early with
  | nil =>
      have hpart : early <+: last := ⟨late, h.joined⟩
      refine ⟨[], [], early, rfl,
        ⟨rfl, nofun, h.last.of_infix hpart.isInfix⟩, h, last, by simp, ?_⟩
      have := hpart.length_le
      have := endMark_pos
      omega
  | cons body bodies ih =>
      obtain ⟨rest, hrest, htail⟩ := h.tail
      have hbody : Clean body := h.bodies body List.mem_cons_self
      by_cases hlen : early.length < (body ++ endMark).length
      · -- the cut is before the end of the first mark
        have hpart : early <+: body ++ endMark :=
          List.prefix_of_prefix_length_le ⟨late, hrest⟩ ⟨rest, rfl⟩
            (Nat.le_of_lt hlen)
        rw [List.length_append] at hlen
        exact ⟨[], body :: bodies, early, rfl,
          ⟨rfl, nofun, clean_of_before_mark hbody hpart (by simpa using hlen)⟩,
          h, body, by simp, hlen⟩
      · obtain ⟨early', rfl⟩ : body ++ endMark <+: early :=
          List.prefix_of_prefix_length_le ⟨rest, hrest.symm⟩ ⟨late, rfl⟩
            (Nat.not_lt.1 hlen)
        rw [List.append_assoc, List.append_cancel_left_eq] at hrest
        subst hrest
        obtain ⟨before, after, kept, rfl, hbefore, hafter, p, hp, hkept⟩ :=
          ih htail
        refine ⟨body :: before, after, kept, rfl, ⟨?_, ?_, hbefore.last⟩,
          hafter, p, List.mem_cons_of_mem _ hp, hkept⟩
        · rw [hbefore.joined, List.flatMap_cons, List.append_assoc _ _ kept]
        · exact List.forall_mem_cons.2 ⟨hbody, hbefore.bodies⟩

-- ====================================================== asked and answered

namespace Receiver

/-- Asks for frames until there is none. What is not a frame is passed
over; a frame that is too long already is not, for nothing of it is
taken, and the next answer would be the same. -/
def drain (r : Receiver) : List Decoded × Receiver :=
  match r.decode with
  | (.incomplete, r') => ([], r')
  | (d, r') =>
    if r'.buffer.length < r.buffer.length then
      let (ds, r'') := drain r'
      (d :: ds, r'')
    else ([d], r')
termination_by r.buffer.length

/-- Chunks arrive one by one, and after each the frames are asked for. -/
def receive (r : Receiver) : List (List UInt8) → List Decoded × Receiver
  | [] => ([], r)
  | chunk :: chunks =>
    let (ds, r') := (r.feed chunk).drain
    let (es, r'') := receive r' chunks
    (ds ++ es, r'')

/-- The last answer, when there is no mark. -/
theorem drain_of_clean {r : Receiver} (hclean : Clean r.buffer) :
    r.drain = if maxFrame + endMark.length < r.buffer.length
      then ([.fault .unterminated], r)
      else ([], { r with searched := r.buffer.length }) := by
  rw [drain, decode_of_clean hclean]
  by_cases hlong : maxFrame + endMark.length < r.buffer.length
  · rw [if_pos hlong, if_pos hlong]
    exact if_neg (Nat.lt_irrefl _)
  · rw [if_neg hlong, if_neg hlong]

/-- An answer, and those that follow it, when there is a mark. -/
theorem drain_at_mark {r : Receiver} {body rest : List UInt8}
    (h : r.Sound) (hbody : Clean body)
    (hr : r.buffer = body ++ endMark ++ rest) :
    r.drain = (judge body :: (drain { buffer := rest }).1,
      (drain { buffer := rest }).2) := by
  have hshorter : rest.length < r.buffer.length := by
    have hmark := endMark_pos
    rw [hr, List.length_append, List.length_append]
    omega
  rw [drain, decode_at_mark h hbody hr]
  split
  case h_1 heq =>
    exact absurd (congrArg Prod.fst heq) (judge_ne_incomplete body)
  case h_2 heq =>
    cases heq
    exact if_pos hshorter

/-- All stretches that are whole are answered for, and the rest is
kept. -/
theorem drain_of_stretches {r : Receiver} {bodies : List (List UInt8)}
    {last : List UInt8} (h : r.Sound) (hr : Stretches r.buffer bodies last)
    (hlast : last.length ≤ maxFrame + endMark.length) :
    r.drain = (bodies.map judge, ⟨last, last.length⟩) := by
  induction bodies generalizing r with
  | nil =>
      have hbuffer : r.buffer = last := hr.joined
      rw [drain_of_clean (hbuffer ▸ hr.last), hbuffer,
        if_neg (Nat.not_lt.2 hlast)]
      rfl
  | cons body bodies ih =>
      obtain ⟨rest, hbuffer, hrest⟩ := hr.tail
      rw [drain_at_mark h (hr.bodies body List.mem_cons_self) hbuffer,
        ih (Sound.start rest) hrest]
      rfl

/-- Chunks of a stream without a stretch that is too long: each stretch
is answered for once, wherever the chunks end. -/
theorem receive_of_stretches {r : Receiver} {chunks : List (List UInt8)}
    {bodies : List (List UInt8)} {last : List UInt8} (h : r.Settled)
    (hs : Stretches (r.buffer ++ chunks.flatten) bodies last)
    (hshort : ∀ p ∈ bodies ++ [last], p.length ≤ maxFrame) :
    r.receive chunks = (bodies.map judge, ⟨last, last.length⟩) := by
  induction chunks generalizing r bodies with
  | nil =>
      rw [List.flatten_nil, List.append_nil] at hs
      obtain ⟨rfl, rfl⟩ := hs.of_clean h.clean
      rw [receive, ← h.searched]
      rfl
  | cons chunk chunks ih =>
      rw [List.flatten_cons, ← List.append_assoc] at hs
      obtain ⟨before, after, kept, rfl, hbefore, hafter, p, hp, hkept⟩ :=
        hs.split
      have hfits : kept.length ≤ maxFrame + endMark.length := by
        have := hshort p hp
        omega
      have hdrain := drain_of_stretches (h.sound.feed chunk) hbefore hfits
      rw [receive, hdrain]
      dsimp only
      rw [ih ⟨rfl, hbefore.last⟩ hafter fun q hq => hshort q (by
          rw [List.append_assoc]
          exact List.mem_append_right _ hq), List.map_append]

/-- Chunks of a stream whose first stretch is too long: the first answer
is a fault, wherever the chunks end, and there is one as soon as there is
a mark or too much for one. -/
theorem receive_of_overlong {r : Receiver} {chunks : List (List UInt8)}
    {bodies : List (List UInt8)} {last first : List UInt8}
    (h : r.Settled) (hr : r.buffer.length ≤ maxFrame + endMark.length)
    (hs : Stretches (r.buffer ++ chunks.flatten) bodies last)
    (hfirst : (bodies ++ [last]).head? = some first)
    (hlong : maxFrame < first.length) :
    match (r.receive chunks).1.head? with
    | some d => ∃ f, d = .fault f
    | none => Clean (r.buffer ++ chunks.flatten)
        ∧ (r.buffer ++ chunks.flatten).length
          ≤ maxFrame + endMark.length := by
  induction chunks generalizing r with
  | nil =>
      rw [List.flatten_nil, List.append_nil]
      exact ⟨h.clean, hr⟩
  | cons chunk chunks ih =>
      rw [List.flatten_cons, ← List.append_assoc] at hs ⊢
      rcases clean_or_first_mark (r.feed chunk).buffer with
        hclean | ⟨body, rest, hbody, hbuffer⟩
      · rw [receive, drain_of_clean hclean]
        by_cases hmore : maxFrame + endMark.length < (r.feed chunk).buffer.length
        · rw [if_pos hmore]
          exact ⟨_, rfl⟩
        · rw [if_neg hmore]
          exact ih ⟨rfl, hclean⟩ (Nat.not_lt.1 hmore) hs
      · have hstream : r.buffer ++ chunk ++ chunks.flatten
            = body ++ endMark ++ (rest ++ chunks.flatten) := by
          rw [← List.append_assoc, ← hbuffer]
          rfl
        rw [hstream] at hs
        have hhead := hs.of_mark hbody
        rw [hfirst] at hhead
        injection hhead with hhead
        rw [receive, drain_at_mark (h.sound.feed chunk) hbody hbuffer,
          judge_of_lt (hhead ▸ hlong)]
        exact ⟨_, rfl⟩

/-- What is taken out of a stream does not depend on its chunks. When no
stretch is too long, each one before a mark comes to a value or is
malformed, in order, and the last one is kept. When the first one is too
long, the first answer, if there is one, is a fault. -/
theorem chunks_make_no_difference (stream : List UInt8) :
    (∃ bodies last, Stretches stream bodies last)
    ∧ ∀ bodies last, Stretches stream bodies last →
      ∀ chunks : List (List UInt8), chunks.flatten = stream →
        ((∀ p ∈ bodies ++ [last], p.length ≤ maxFrame) →
          receive {} chunks = (bodies.map fun p =>
              (readBody p).elim (.fault .malformed) .frame,
            ⟨last, last.length⟩)
          ∧ receive {} chunks = receive {} [stream])
        ∧ ∀ first ∈ (bodies ++ [last]).head?, maxFrame < first.length →
          match (receive {} chunks).1.head? with
          | some d => ∃ f, d = .fault f
          | none => Clean stream
              ∧ stream.length ≤ maxFrame + endMark.length := by
  refine ⟨exists_stretches stream, ?_⟩
  rintro bodies last hs chunks rfl
  refine ⟨fun hshort => ⟨?_, ?_⟩, fun first hfirst hlong => ?_⟩
  · rw [receive_of_stretches .start hs hshort]
    congr 1
    refine List.map_congr_left fun p hp => ?_
    rw [judge_of_le (hshort p (List.mem_append_left _ hp))]
    cases readBody p <;> rfl
  · have hone : Stretches ([] ++ [chunks.flatten].flatten) bodies last := by
      rw [List.flatten_singleton]
      exact hs
    rw [receive_of_stretches .start hs hshort,
      receive_of_stretches .start hone hshort]
  · exact receive_of_overlong .start (Nat.zero_le _) hs hfirst hlong

/-- A mark that comes in two chunks ends a frame, and one that has begun
is kept. Blanks that are too many are a fault. -/
theorem mark_in_two_chunks_ends_frame :
    receive {} [Text.Utf8.encode "[]<F2B_END",
        Text.Utf8.encode "_COMMAND>[<F2B"]
      = ([.frame (.arr [])], ⟨Text.Utf8.encode "[<F2B", 5⟩)
    ∧ ∃ f, (receive {} [List.replicate (maxFrame + 1) 32, endMark]).1.head?
        = some (.fault f) := by
  constructor
  · have hs : Stretches (Text.Utf8.encode "[]<F2B_END_COMMAND>[<F2B")
        [Text.Utf8.encode "[]"] (Text.Utf8.encode "[<F2B") :=
      ⟨by decide +kernel, by decide +kernel, by decide +kernel⟩
    have hread : readBody (Text.Utf8.encode "[]") = some (.arr []) := by
      unfold readBody
      rw [Text.Utf8.fromUTF8?_encode]
      rfl
    have hall := (((chunks_make_no_difference _).2 _ _ hs
      [Text.Utf8.encode "[]<F2B_END", Text.Utf8.encode "_COMMAND>[<F2B"]
      (by decide +kernel)).1 (by decide +kernel)).1
    have hkept : (Text.Utf8.encode "[<F2B").length = 5 := by decide +kernel
    rw [hall, List.map_singleton, hread, hkept]
    rfl
  · have hclean : Clean (List.replicate (maxFrame + 1) 32) := by
      intro hmark
      obtain ⟨more, hmore, -⟩ := endMark_eq
      have hbyte : (60 : UInt8) ∈ endMark := by
        rw [hmore]
        exact List.mem_cons_self
      exact absurd (List.eq_of_mem_replicate (hmark.subset hbyte)) (by decide)
    have hs : Stretches (List.replicate (maxFrame + 1) 32 ++ endMark)
        [List.replicate (maxFrame + 1) 32] [] :=
      ⟨by simp, by simpa using hclean, clean_nil⟩
    have hfault := ((chunks_make_no_difference _).2 _ _ hs
      [List.replicate (maxFrame + 1) 32, endMark] (by simp)).2 _ rfl
      (by rw [List.length_replicate]; exact Nat.lt_succ_self _)
    split at hfault
    case h_1 d hd =>
      obtain ⟨f, rfl⟩ := hfault
      exact ⟨f, hd⟩
    case h_2 =>
      exact absurd (List.suffix_append _ endMark).isInfix hfault.1

end Receiver

end Gatewatch.Wire
