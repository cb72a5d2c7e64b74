/-
What a pattern that ends in the host mark captures.

# The shapes

At the address the mark tries the lead of an IPv4 address inside IPv6,
then groups with colons, then a name. Each takes as much as it can, and
an address ends with the line, so the preferred match goes to the end at
once wherever a shape fits: three to eight groups of at most four digits
(`first_sixNode`) or, where there is no colon at all, a name
(`first_nameNode`). There is no need to know the other threads.

# The lead

The lead is taken wherever its characters stand (`first_leadNode`), and
is no part of the host. What the mark captures of a text is then the rest
of it (`Captures`), and the pattern matches the whole line
(`findFailure_pattern`).
-/
import Gatewatch.Proofs.Filter.HostMark
import Gatewatch.Proofs.Net.Usual
import Mathlib.Data.List.TakeWhile

namespace Gatewatch.Filter.HostMark

open Pattern
open Net (AtColon rowsText rowsText_cons rowsText_append atColon_rowsText)

/-- What a group of an address may be written as. -/
def Fits (p : List Char) : Prop :=
  p.length ≤ 4 ∧ ∀ c ∈ p, hexDigits.has c = true

variable {t : Thread}

theorem threads_plainNode {c : Char} {rest : List Char}
    (h : t.cursor.rest = c :: rest) :
    (plainNode c).threads t = [t.past 1] := by
  unfold plainNode
  rw [Node.threads_set_cons h, if_pos]
  exact beq_self_eq_true c

theorem first_plainNode {c : Char} {rest : List Char}
    (h : t.cursor.rest = c :: rest) :
    (plainNode c).first t = some (t.past 1) := by
  unfold Node.first
  rw [threads_plainNode h]
  rfl

theorem takeWhile_hexDigits {p rest : List Char} (hp : Fits p)
    (hrest : AtColon rest) :
    (p ++ rest).takeWhile hexDigits.has = p := by
  have hstop : rest.takeWhile hexDigits.has = [] := by
    cases rest with
    | nil => rfl
    | cons c rest =>
        rw [hrest c rfl, List.takeWhile_cons_of_neg (by decide)]
  rw [List.takeWhile_append_of_pos hp.2, hstop, List.append_nil]

theorem first_groupNode {p rest : List Char}
    (h : t.cursor.rest = p ++ rest) (hp : Fits p)
    (hrest : AtColon rest) :
    groupNode.first t = some (t.past p.length) := by
  unfold groupNode
  rw [Node.first_run (Nat.zero_le _), h, takeWhile_hexDigits hp hrest]
  congr 2
  exact Nat.min_eq_right hp.1

theorem first_rowNode {p rest : List Char}
    (h : t.cursor.rest = ':' :: p ++ rest) (hp : Fits p)
    (hrest : AtColon rest) :
    rowNode.first t = some (t.past (':' :: p).length) := by
  have hcolon := first_plainNode h
  have hgroup : groupNode.first (t.past 1)
      = some ((t.past 1).past p.length) := by
    refine first_groupNode ?_ hp hrest
    rw [Thread.rest_past, h]
    rfl
  rw [Thread.past_past, Nat.add_comm] at hgroup
  exact Node.first_seq_of_first hcolon hgroup

theorem along_rowNode {rows : List (List Char)} {rest : List Char}
    (h : t.cursor.rest = rowsText rows ++ rest)
    (hrows : ∀ p ∈ rows, Fits p) (hrest : AtColon rest) :
    Node.along rowNode.first rows.length t
      = some (t.past (rowsText rows).length) := by
  induction rows generalizing t with
  | nil => rfl
  | cons p rows ih =>
      have hp := hrows p List.mem_cons_self
      have hmore := fun x hx => hrows x (List.mem_cons_of_mem p hx)
      have hsplit : t.cursor.rest
          = ':' :: p ++ (rowsText rows ++ rest) := by
        rw [h, rowsText_cons, List.append_assoc]
      have hrow := first_rowNode hsplit hp
        ((atColon_rowsText rows).append hrest)
      have hnext := ih (Thread.rest_past_length hsplit) hmore
      rw [List.length_cons, Node.along, hrow, Option.bind_some, hnext,
        Thread.past_past, rowsText_cons, List.length_append]

theorem threads_rowNode_nil (h : t.cursor.rest.head? ≠ some ':') :
    rowNode.threads t = [] := by
  have hcolon : (plainNode ':').threads t = [] := by
    unfold plainNode
    cases hrest : t.cursor.rest with
    | nil => exact Node.threads_set_nil hrest
    | cons c rest =>
        rw [Node.threads_set_cons hrest, if_neg]
        intro hc
        rw [hrest] at h
        exact h (congrArg some (beq_iff_eq.1 hc))
  show Node.follow _ ((plainNode ':').threads t) = []
  rw [hcolon]
  rfl

theorem deepest_rowNode {rows : List (List Char)} {n : Nat}
    (h : t.cursor.rest = rowsText rows)
    (hrows : ∀ p ∈ rows, Fits p) (hn : rows.length ≤ n) :
    Node.deepest rowNode.first n t = t.past (rowsText rows).length := by
  induction rows generalizing n t with
  | nil =>
      have hend : rowNode.first t = none := by
        rw [Node.first_eq_none_iff]
        refine threads_rowNode_nil ?_
        rw [h]
        nofun
      cases n with
      | zero => rfl
      | succ n => rw [Node.deepest, hend]; rfl
  | cons p rows ih =>
      cases n with
      | zero => cases hn
      | succ n =>
          have hp := hrows p List.mem_cons_self
          have hmore := fun x hx => hrows x (List.mem_cons_of_mem p hx)
          have hsplit : t.cursor.rest = ':' :: p ++ rowsText rows := by
            rw [h, rowsText_cons]
          have hrow := first_rowNode hsplit hp (atColon_rowsText rows)
          have hnext := ih (Thread.rest_past_length hsplit) hmore
            (Nat.le_of_succ_le_succ hn)
          rw [Node.deepest, hrow]
          dsimp only
          rw [hnext, Thread.past_past, rowsText_cons, List.length_append]

/-- Three to eight groups are taken to the end of the text. -/
theorem first_sixNode {p : List Char} {rows : List (List Char)}
    (h : t.cursor.rest = p ++ rowsText rows)
    (hpieces : ∀ q ∈ p :: rows, Fits q) (hlow : 2 ≤ rows.length)
    (hhigh : rows.length ≤ 7) :
    sixNode.first t = some (t.past t.cursor.rest.length) := by
  have hp := hpieces p List.mem_cons_self
  have hrows := fun q hq => hpieces q (List.mem_cons_of_mem p hq)
  have hsplit : rowsText rows
      = rowsText (rows.take 2) ++ rowsText (rows.drop 2) := by
    rw [← rowsText_append, List.take_append_drop]
  have hgroup := first_groupNode h hp (atColon_rowsText rows)
  have hafter := Thread.rest_past_length h
  rw [hsplit] at hafter
  -- two rows have to be there, and up to five may follow
  have htwo : (Node.times 2 rowNode).first (t.past p.length)
      = some ((t.past p.length).past (rowsText (rows.take 2)).length) := by
    have halong := along_rowNode hafter
      (fun q hq => hrows q (List.mem_of_mem_take hq))
      (atColon_rowsText (rows.drop 2))
    rw [List.length_take_of_le hlow] at halong
    exact Node.first_times halong
  have hmore : (Node.atMost 5 rowNode true).first
      ((t.past p.length).past (rowsText (rows.take 2)).length)
        = some (((t.past p.length).past
          (rowsText (rows.take 2)).length).past
            (rowsText (rows.drop 2)).length) := by
    rw [Node.first_atMost, deepest_rowNode (Thread.rest_past_length hafter)
      (fun q hq => hrows q (List.mem_of_mem_drop hq))]
    rw [List.length_drop]
    omega
  have hfirst := Node.first_seq_of_first hgroup
    (Node.first_seq_of_first htwo hmore)
  rw [Thread.past_past, Thread.past_past, ← List.length_append,
    ← List.length_append, ← hsplit, ← h] at hfirst
  exact hfirst

/-- Where there is no colon there is one group at most. -/
theorem first_sixNode_none (h : ':' ∉ t.cursor.rest) :
    sixNode.first t = none := by
  unfold sixNode groupNode
  rw [Node.first_seq, List.findSome?_eq_none_iff, Node.threads_run]
  intro u hu
  obtain ⟨k, -, rfl⟩ := List.mem_map.1 (List.mem_reverse.1 hu)
  have hrow : rowNode.threads (t.past k) = [] := by
    refine threads_rowNode_nil fun hcolon => h ?_
    rw [Thread.rest_past] at hcolon
    exact List.mem_of_mem_drop (List.mem_of_mem_head? hcolon)
  have htwo : (Node.times 2 rowNode).threads (t.past k) = [] := by
    show Node.follow _ (rowNode.threads (t.past k)) = []
    rw [hrow]
    rfl
  rw [Node.first_seq, htwo]
  rfl

/-- A name is taken to the end of the text. -/
theorem first_nameNode {front : List Char} {c : Char}
    (h : t.cursor.rest = front ++ [c])
    (hname : ∀ x ∈ t.cursor.rest, nameSet.has x = true)
    (hword : (CharSet.word true).has c = true) :
    nameNode.first t = some (t.past t.cursor.rest.length) := by
  have hall : t.cursor.rest.takeWhile nameSet.has = t.cursor.rest :=
    List.takeWhile_eq_self_iff.2 hname
  have hlength : t.cursor.rest.length = front.length + 1 := by
    rw [h, List.length_append, List.length_singleton]
  have hend : (Node.set (.word true)).first (t.past (front.length + 1))
      = none := by
    rw [Node.first_eq_none_iff]
    refine Node.threads_set_nil ?_
    rw [Thread.rest_past, ← hlength, List.drop_length]
  have hlast : (Node.set (.word true)).first (t.past front.length)
      = some (t.past (front.length + 1)) := by
    have hrest : (t.past front.length).cursor.rest = [c] :=
      Thread.rest_past_length h
    unfold Node.first
    rw [Node.threads_set_cons hrest, if_pos hword, Thread.past_past]
    rfl
  unfold nameNode
  rw [Node.first_seq, Node.threads_run, hall, List.drop_zero,
    ← List.map_reverse, Option.getD_none, Nat.min_self, hlength,
    List.range_succ, List.range_succ, List.reverse_append,
    List.reverse_append]
  simp [hend, hlast]

-- ============================================================= the lead

/-- The lead of an IPv4 address inside IPv6. -/
def leadText : List Char := [':', ':', 'f', 'f', 'f', 'f', ':']

/-- The lead is taken where it stands. -/
theorem first_leadNode {rest : List Char}
    (h : t.cursor.rest = leadText ++ rest) :
    leadNode.first t = some (t.past 7) := by
  have hrest : ∀ n, (t.past n).cursor.rest = (leadText ++ rest).drop n := by
    intro n
    rw [Thread.rest_past, h]
  have hrun : (Node.run (.single 'f') 4 (some 6) true).first (t.past 2)
      = some (t.past 6) := by
    have hcount : min ((some 6).getD (t.past 2).cursor.rest.length)
        ((t.past 2).cursor.rest.takeWhile (CharSet.single 'f').has).length
          = 4 := by
      rw [hrest]
      rfl
    rw [Node.first_run (Nat.le_of_eq hcount.symm), hcount, Thread.past_past]
  have hcolon := first_plainNode (hrest 1)
  have hlast := first_plainNode (hrest 6)
  rw [Thread.past_past] at hcolon hlast
  exact Node.first_seq_of_first (Node.first_seq_of_first
    (Node.first_seq_of_first (first_plainNode h) hcolon) hrun) hlast

/-- What is taken for the lead is two colons, at least four times the
letter, and a colon. -/
theorem first_leadNode_none
    (h : ∀ n rest, 4 ≤ n →
      t.cursor.rest ≠ ':' :: ':' :: List.replicate n 'f' ++ ':' :: rest) :
    leadNode.first t = none := by
  rw [Node.first_eq_none_iff, List.eq_nil_iff_forall_not_mem]
  intro r hr
  obtain ⟨x, hx, hr⟩ := Node.of_mem_follow hr
  obtain ⟨y, hy, hx⟩ := Node.of_mem_follow hx
  obtain ⟨z, hz, hy⟩ := Node.of_mem_follow hy
  obtain ⟨c, rest, hrest, hc, rfl⟩ := Node.of_mem_set hz
  obtain ⟨d, more, hmore, hd, rfl⟩ := Node.of_mem_set hy
  obtain ⟨n, hlow, hhigh, rfl⟩ := Node.of_mem_run hx
  obtain ⟨e, last, hlast, he, rfl⟩ := Node.of_mem_set hr
  obtain rfl : c = ':' := beq_iff_eq.1 hc
  obtain rfl : d = ':' := beq_iff_eq.1 hd
  obtain rfl : e = ':' := beq_iff_eq.1 he
  rw [Thread.rest_past, hrest] at hmore
  obtain rfl : rest = ':' :: more := hmore
  have hafter : ((t.past 1).past 1).cursor.rest = more := by
    rw [Thread.past_past, Thread.rest_past, hrest]
    rfl
  rw [hafter] at hhigh
  rw [Thread.rest_past, hafter] at hlast
  have hletters : more.take n = List.replicate n 'f' := by
    have hfront := List.takeWhile_prefix (CharSet.single 'f').has (l := more)
    rw [List.prefix_iff_eq_take] at hfront
    have hle := hhigh.trans (List.takeWhile_sublist _).length_le
    refine List.eq_replicate_iff.2
      ⟨List.length_take_of_le hle, fun c hc => ?_⟩
    · have hmem : c ∈ more.takeWhile (CharSet.single 'f').has := by
        rw [hfront]
        exact List.take_subset_take_left more hhigh hc
      have hf : (CharSet.single 'f').has c = true :=
        List.mem_takeWhile_imp hmem
      exact beq_iff_eq.1 hf
  refine h n last hlow ?_
  rw [hrest, ← hletters, ← hlast, List.cons_append, List.cons_append,
    List.take_append_drop]

-- ============================================================ the match

/-- A text that the host group takes to the end. -/
def IsHost (host : List Char) : Prop :=
  ∀ t : Thread, t.cursor.rest = host →
    (Node.alt sixNode nameNode).first t = some (t.past host.length)

theorem isHost_of_six {p : List Char} {rows : List (List Char)}
    (hpieces : ∀ q ∈ p :: rows, Fits q) (hlow : 2 ≤ rows.length)
    (hhigh : rows.length ≤ 7) : IsHost (p ++ rowsText rows) := by
  intro t h
  rw [Node.first_alt, first_sixNode h hpieces hlow hhigh, h]
  rfl

theorem isHost_of_name {front : List Char} {c : Char}
    (hcolon : ':' ∉ front ++ [c])
    (hname : ∀ x ∈ front ++ [c], nameSet.has x = true)
    (hword : (CharSet.word true).has c = true) : IsHost (front ++ [c]) := by
  intro t h
  have hlast := first_nameNode h (by rwa [h]) hword
  rw [Node.first_alt, first_sixNode_none (by rwa [h]), hlast, h]
  rfl

/-- At a text the mark takes the lead or nothing, and the rest of the
text as the host. -/
def Captures (text host : List Char) : Prop :=
  ∃ skipped, text = skipped ++ host
    ∧ ∀ t : Thread, t.cursor.rest = text →
      (leadNode.optional true).first t = some (t.past skipped.length)
        ∧ (Node.alt sixNode nameNode).first (t.past skipped.length)
          = some (t.past text.length)

/-- Behind the lead is the host. -/
theorem captures_lead {host : List Char} (h : IsHost host) :
    Captures (leadText ++ host) host := by
  refine ⟨leadText, rfl, fun t ht => ⟨?_, ?_⟩⟩
  · show (Node.alt leadNode .empty).first t = _
    rw [Node.first_alt, first_leadNode ht]
    rfl
  · rw [h _ (Thread.rest_past_length ht), Thread.past_past,
      List.length_append]

/-- Without the lead all is the host. -/
theorem captures_all {host : List Char} (h : IsHost host)
    (hlead : ∀ n rest, 4 ≤ n →
      host ≠ ':' :: ':' :: List.replicate n 'f' ++ ':' :: rest) :
    Captures host host := by
  refine ⟨[], rfl, fun t ht => ⟨?_, h t ht⟩⟩
  have hnone : leadNode.first t = none :=
    first_leadNode_none fun n rest hn => by rw [ht]; exact hlead n rest hn
  show (Node.alt leadNode .empty).first t = _
  rw [Node.first_alt, hnone]
  rfl

/-- Plain text is matched in one way. -/
theorem foldl_plainNode {lead rest : List Char}
    (h : t.cursor.rest = lead ++ rest) :
    (lead.map plainNode).foldl (fun ts a => Node.follow a.threads ts) [t]
      = [t.past lead.length] := by
  induction lead generalizing t with
  | nil => rfl
  | cons c lead ih =>
      have hmore : (t.past 1).cursor.rest = lead ++ rest :=
        Thread.rest_past_length (a := [c]) h
      rw [List.map_cons, List.foldl_cons]
      show List.foldl _ ((plainNode c).threads t) _ = _
      rw [threads_plainNode h, ih hmore, Thread.past_past,
        List.length_cons, Nat.add_comm]

/-- Behind plain text the whole line is matched, and the host recorded. -/
theorem first_mark {lead text host : List Char}
    (hrest : t.cursor.rest = lead ++ text) (htext : Captures text host) :
    ∃ skipped, text = skipped ++ host
      ∧ (Node.concat (lead.map plainNode ++ markNodes)).first t
        = some { t.past (lead ++ text).length with
          groups := (1, ⟨(t.past (lead ++ skipped).length).cursor.offset,
            (t.past (lead ++ text).length).cursor.offset⟩) :: t.groups } := by
  obtain ⟨skipped, hskipped, htakes⟩ := htext
  obtain ⟨hskip, hhost⟩ := htakes _ (Thread.rest_past_length hrest)
  rw [Thread.past_past, ← List.length_append] at hskip hhost
  rw [Thread.past_past, ← List.length_append] at hhost
  have hgroup := Node.first_group 1 (some "host") (.alt sixNode nameNode)
    (t.past (lead ++ skipped).length)
  rw [hhost] at hgroup
  have hend : (t.past (lead ++ text).length).cursor.rest = [] := by
    rw [Thread.rest_past, hrest, List.drop_length]
  refine ⟨skipped, hskipped, ?_⟩
  unfold Node.first
  rw [Node.threads_concat, List.foldl_append, foldl_plainNode hrest]
  refine Node.head?_follow_of_head? (Node.head?_follow_of_head?
    (Node.head?_follow_of_head? rfl hskip) hgroup) ?_
  unfold Node.threads Look.holds
  dsimp only
  rw [hend]
  rfl

/-- The part of a text from a place to its end. -/
theorem text_of_end (front back : List Char) :
    Pattern.Span.text ⟨Text.width front, Text.width (front ++ back)⟩
      (front ++ back) = back := by
  have hall := Text.upTo_width_append back []
  rw [List.append_nil] at hall
  unfold Pattern.Span.text Text.between
  dsimp only
  rw [Text.beyond_width_append, Text.width_append, Nat.add_sub_cancel_left,
    hall]

/-- The pattern matches the whole line, and its host is the captured one. -/
theorem findFailure_pattern {lead : String} {text host : List Char}
    (h : Captures text host) (ignore : List LinePattern) :
    Patterns.findFailure ⟨[pattern lead], ignore⟩ (lead.toList ++ text)
      = some ⟨0, String.ofList host,
        ⟨0, Text.width (lead.toList ++ text)⟩⟩ := by
  obtain ⟨skipped, hskipped, hfirst⟩ :=
    first_mark (t := ⟨.start (lead.toList ++ text), []⟩) rfl h
  have hoffset : ∀ front back, lead.toList ++ text = front ++ back →
      ((⟨.start (lead.toList ++ text), []⟩ : Thread).past
        front.length).cursor.offset = Text.width front := by
    intro front back hsplit
    show (Cursor.past _ _).offset = _
    rw [Cursor.offset_past]
    show 0 + Text.width ((lead.toList ++ text).take _) = _
    rw [hsplit, List.take_left, Nat.zero_add]
  have hstart := hoffset (lead.toList ++ skipped) host (by
    rw [hskipped, List.append_assoc])
  have hstop := hoffset (lead.toList ++ text) [] (List.append_nil _).symm
  have hfind : (pattern lead).pattern.find (lead.toList ++ text)
      = some ⟨⟨0, Text.width (lead.toList ++ text)⟩,
        [(1, ⟨Text.width (lead.toList ++ skipped),
          Text.width (lead.toList ++ text)⟩)]⟩ := by
    refine Node.find_of_matchAt? ?_
    unfold Node.matchAt?
    show ((Node.concat _).first _).map _ = _
    rw [hfirst, hstart, hstop, Option.map_some]
    show some (Match.mk ⟨0, (Thread.past _ _).cursor.offset⟩ _) = _
    rw [hstop]
  have hhost : Pattern.Span.text ⟨Text.width (lead.toList ++ skipped),
      Text.width (lead.toList ++ text)⟩ (lead.toList ++ text) = host := by
    rw [hskipped, ← List.append_assoc, text_of_end]
  have hnamed : (pattern lead).pattern.named?
      ⟨⟨0, Text.width (lead.toList ++ text)⟩,
        [(1, ⟨Text.width (lead.toList ++ skipped),
          Text.width (lead.toList ++ text)⟩)]⟩ "host"
      = some ⟨Text.width (lead.toList ++ skipped),
          Text.width (lead.toList ++ text)⟩ := by
    unfold named? pattern
    rw [groupNames_mark]
    rfl
  unfold Patterns.findFailure Patterns.firstFailure Patterns.failureOf
  rw [hfind]
  simp only [Option.bind_eq_bind, Option.bind_some, hnamed, hhost]
  rfl

end Gatewatch.Filter.HostMark
