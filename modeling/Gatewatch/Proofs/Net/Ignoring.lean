/-
What an ignore list of networks means.

# The list

An edit adds the network that a text writes, or removes it, whichever way
the text spells it. The account of the list (`Stamped`) keeps with each
network the number of the edit that added it: one that took effect and
that no later edit took back (`Stands`). A new network gets a number
above all others and a removal leaves the numbers of the rest, so the
order of the list is the order of addition (`Stamped.edit`).

# What it ignores

Two blocks that hold the same addresses are equal (`same_iff_eq`): they
have one base and one size, and the sizes of a family are powers of two
that tell the lengths. So to look for an entry by equality is to look
for one of the same network, and a host is ignored when it lies between
the first and the last address of an entry (`holds_iff_between`).
-/
import Gatewatch.Net.IgnoreList
import Gatewatch.Proofs.Net.Address
import Gatewatch.Proofs.Net.Block
import Mathlib.Data.List.Induction
import Mathlib.Data.List.Nodup

namespace Gatewatch.Net

-- =========================================================== networks

namespace Block

/-- Two blocks hold the same addresses. -/
def Same (b n : Block) : Prop :=
  b.family = n.family ∧ ∀ value, b.Holds value ↔ n.Holds value

/-- Of two blocks with the same addresses, neither starts before the
other or ends before it. -/
theorem Same.le {b n : Block} (h : b.Same n) :
    n.base ≤ b.base ∧ b.base + b.size ≤ n.base + n.size := by
  have hpos : 0 < b.size := Word.size_pos _
  have hfirst := (h.2 b.base).1 b.holds_base
  have hlast := (h.2 (b.base + b.size - 1)).1 ⟨by omega, by omega⟩
  exact ⟨hfirst.1, by have := hlast.2; omega⟩

/-- Blocks with the same addresses are equal. -/
theorem same_iff_eq {b n : Block} : b.Same n ↔ b = n := by
  constructor
  · intro h
    obtain ⟨hbase, hend⟩ := h.le
    obtain ⟨hbase', hend'⟩ :=
      Same.le (b := n) (n := b) ⟨h.1.symm, fun v => (h.2 v).symm⟩
    have hsize : b.size = n.size := by omega
    -- the sizes are powers of two
    have hbits : b.family.width - b.length = n.family.width - n.length :=
      (Nat.pow_right_inj (by decide : 1 < 2)).1 hsize
    have hlength : b.length = n.length := by
      have hb := b.length_le
      have hn := n.length_le
      rw [h.1] at hb hbits
      omega
    exact Address.block_inj h.1 (by omega) hlength
  · rintro rfl
    exact ⟨rfl, fun _ => Iff.rfl⟩

/-- A block holds what lies between its first address and its last. -/
theorem holds_iff_between (n : Block) (value : Nat) :
    n.Holds value ↔ n.base ≤ value
      ∧ value ≤ n.base + 2 ^ (n.family.width - n.length) - 1 := by
  have hpos : 0 < n.size := Word.size_pos _
  show n.base ≤ value ∧ value < n.base + n.size
    ↔ n.base ≤ value ∧ value ≤ n.base + n.size - 1
  omega

end Block

namespace IgnoreList

-- ============================================================== edits

/-- An edit of a list, with the text of an entry. -/
inductive Edit where
  | add (text : String)
  | remove (text : String)

/-- The text of an edit. -/
def Edit.text : Edit → String
  | add text => text
  | remove text => text

/-- The list after an edit. -/
def edit (l : IgnoreList) : Edit → IgnoreList
  | .add text => (l.add text).1
  | .remove text => (l.remove text).1

/-- The list after edits. -/
def run (l : IgnoreList) (edits : List Edit) : IgnoreList :=
  edits.foldl edit l

/-- The list holds some networks and nothing else. -/
def Holds (l : IgnoreList) (nets : List Block) : Prop :=
  l.entries = nets.map .net

section Texts

variable {l : IgnoreList} {nets : List Block} {text : String} {b : Block}

/-- A literal is the entry of its network. -/
theorem parse_entry (htext : Address.parse text = .block b) :
    IgnoreEntry.parse text = .net b := by
  unfold IgnoreEntry.parse
  rw [htext]

/-- An entry of a network is found when the network is listed. -/
theorem contains_net (hl : l.Holds nets) :
    l.entries.contains (.net b) = true ↔ b ∈ nets := by
  rw [List.contains_iff_mem, show l.entries = _ from hl, List.mem_map]
  constructor
  · rintro ⟨n, hn, heq⟩
    injection heq with heq
    exact heq ▸ hn
  · exact fun hb => ⟨b, hb, rfl⟩

/-- A network is added behind the others unless it is listed. -/
theorem add_of_literal (hl : l.Holds nets)
    (htext : Address.parse text = .block b) :
    ((l.add text).2 = true ↔ b ∉ nets)
      ∧ (l.add text).1.Holds (if b ∈ nets then nets else nets ++ [b]) := by
  unfold add
  dsimp only
  rw [parse_entry htext]
  by_cases hb : b ∈ nets
  · rw [if_pos ((contains_net hl).2 hb), if_pos hb]
    exact ⟨⟨nofun, fun h => absurd hb h⟩, hl⟩
  · rw [if_neg (mt (contains_net hl).1 hb), if_neg hb]
    refine ⟨⟨fun _ => hb, fun _ => rfl⟩, ?_⟩
    show l.entries ++ [.net b] = (nets ++ [b]).map .net
    rw [show l.entries = _ from hl, List.map_append]
    rfl

/-- A network is removed if it is listed, and no other is. -/
theorem remove_of_literal (hl : l.Holds nets)
    (htext : Address.parse text = .block b) :
    ((l.remove text).2 = true ↔ b ∈ nets)
      ∧ (l.remove text).1.Holds (nets.filter (· != b)) := by
  unfold remove
  dsimp only
  rw [parse_entry htext]
  refine ⟨contains_net hl, ?_⟩
  show l.entries.filter (· != .net b) = (nets.filter (· != b)).map .net
  rw [show l.entries = _ from hl, List.filter_map]
  refine congrArg (List.map IgnoreEntry.net)
    (List.filter_congr fun n _ => ?_)
  rw [Function.comp_apply, Bool.eq_iff_iff, bne_iff_ne, bne_iff_ne, ne_eq,
    IgnoreEntry.net.injEq]

/-- A network is listed when an entry holds the same addresses. -/
theorem exists_same_iff : (∃ n ∈ nets, n.Same b) ↔ b ∈ nets := by
  simp only [Block.same_iff_eq, exists_eq_right]

/-- To add a network tells whether no entry holds the same addresses. It
is listed behind the others then, and else nothing changes. -/
theorem add_same (hl : l.Holds nets) (htext : Address.parse text = .block b) :
    ((l.add text).2 = true ↔ ∀ n ∈ nets, ¬ n.Same b)
      ∧ ((l.add text).2 = true → (l.add text).1.Holds (nets ++ [b]))
      ∧ ((l.add text).2 = false → (l.add text).1.Holds nets) := by
  obtain ⟨hnew, hadded⟩ := add_of_literal hl htext
  refine ⟨?_, fun hflag => ?_, fun hflag => ?_⟩
  · rw [hnew, ← exists_same_iff, not_exists]
    exact forall_congr' fun n => not_and
  · rwa [if_neg (hnew.1 hflag)] at hadded
  · have hb : b ∈ nets := by
      by_contra hb
      rw [hnew.2 hb] at hflag
      cases hflag
    rwa [if_pos hb] at hadded

/-- To remove a network tells whether an entry holds the same addresses.
If so that entry is taken away, and else nothing changes. -/
theorem remove_same (hl : l.Holds nets) (hdistinct : nets.Nodup)
    (htext : Address.parse text = .block b) :
    ((l.remove text).2 = true ↔ ∃ n ∈ nets, n.Same b)
      ∧ ((l.remove text).2 = false → (l.remove text).1.Holds nets)
      ∧ ∀ before n after, nets = before ++ n :: after → n.Same b →
          (l.remove text).1.Holds (before ++ after) := by
  obtain ⟨hfound, hleft⟩ := remove_of_literal hl htext
  rw [← hdistinct.erase_eq_filter] at hleft
  refine ⟨hfound.trans exists_same_iff.symm, fun hflag => ?_, ?_⟩
  · have hb : b ∉ nets := fun hb => by
      rw [hfound.2 hb] at hflag
      cases hflag
    rwa [List.erase_of_not_mem hb] at hleft
  · rintro before n after hsplit hn
    obtain rfl := Block.same_iff_eq.1 hn
    have hbefore : n ∉ before := fun hmem => by
      rw [hsplit] at hdistinct
      exact (List.nodup_append.1 hdistinct).2.2 n hmem n
        List.mem_cons_self rfl
    rwa [hsplit, List.erase_append_right _ hbefore,
      List.erase_cons_head] at hleft

end Texts

-- =========================================================== the order

/-- The edit of a number added a network, which was not listed then, and
no later edit removed it. -/
def Stands (edits : List Edit) (i : Nat) (b : Block) : Prop :=
  ∃ before text after, edits = before ++ .add text :: after
    ∧ before.length = i ∧ Address.parse text = .block b
    ∧ ((run {} before).add text).2 = true
    ∧ ∀ t, Edit.remove t ∈ after → Address.parse t ≠ .block b

/-- The networks of a list with the numbers of the edits that added
them, in order. -/
structure Stamped (edits : List Edit) (stamps : List (Nat × Block)) :
    Prop where
  holds : (run {} edits).Holds (stamps.map Prod.snd)
  distinct : (stamps.map Prod.snd).Nodup
  ordered : stamps.Pairwise (·.1 < ·.1)
  stands : ∀ s ∈ stamps, Stands edits s.1 s.2

variable {edits : List Edit} {stamps : List (Nat × Block)}

/-- A network stands when one more edit is not its removal. -/
theorem Stands.concat {i : Nat} {b : Block} (h : Stands edits i b)
    {e : Edit} (he : ∀ t, e = .remove t → Address.parse t ≠ .block b) :
    Stands (edits ++ [e]) i b := by
  obtain ⟨before, text, after, rfl, hlength, htext, hnew, hafter⟩ := h
  refine ⟨before, text, after ++ [e], by simp, hlength, htext, hnew, ?_⟩
  intro t ht
  rcases List.mem_append.1 ht with ht | ht
  · exact hafter t ht
  · exact he t (List.mem_singleton.1 ht).symm

/-- The edit that added a network is one of the edits. -/
theorem Stands.lt {i : Nat} {b : Block} (h : Stands edits i b) :
    i < edits.length := by
  obtain ⟨before, text, after, rfl, rfl, -⟩ := h
  simp

/-- One more edit is the last of a run. -/
theorem run_concat (edits : List Edit) (e : Edit) :
    run {} (edits ++ [e]) = (run {} edits).edit e :=
  List.foldl_concat ..

/-- An edit with a literal keeps the account. -/
theorem Stamped.edit (h : Stamped edits stamps) {e : Edit} {b : Block}
    (htext : Address.parse e.text = .block b) :
    ∃ stamps', Stamped (edits ++ [e]) stamps' := by
  have hrun := run_concat edits e
  cases e with
  | add text =>
      obtain ⟨hnew, hholds⟩ := add_of_literal h.holds htext
      have hstands : ∀ s ∈ stamps, Stands (edits ++ [.add text]) s.1 s.2 :=
        fun s hs => (h.stands s hs).concat nofun
      by_cases hb : b ∈ stamps.map Prod.snd
      · rw [if_pos hb] at hholds
        exact ⟨stamps, hrun ▸ hholds, h.distinct, h.ordered, hstands⟩
      · rw [if_neg hb] at hholds
        refine ⟨stamps ++ [(edits.length, b)], ?_, ?_, ?_, ?_⟩
        · rw [hrun, List.map_append]
          exact hholds
        · rw [List.map_append]
          exact h.distinct.append (List.nodup_singleton b)
            (List.disjoint_singleton.2 hb)
        · rw [List.pairwise_append]
          refine ⟨h.ordered, List.pairwise_singleton .., ?_⟩
          intro s hs s' hs'
          rw [List.mem_singleton.1 hs']
          exact (h.stands s hs).lt
        · intro s hs
          rcases List.mem_append.1 hs with hs | hs
          · exact hstands s hs
          · rw [List.mem_singleton.1 hs]
            exact ⟨edits, text, [], rfl, rfl, htext, hnew.2 hb, nofun⟩
  | remove text =>
      obtain ⟨-, hholds⟩ := remove_of_literal h.holds htext
      refine ⟨stamps.filter (·.2 != b), ?_, ?_, ?_, ?_⟩
      · rw [List.filter_map] at hholds
        exact hrun ▸ hholds
      · exact h.distinct.sublist (List.filter_sublist.map _)
      · exact h.ordered.sublist List.filter_sublist
      · intro s hs
        obtain ⟨hmem, hkept⟩ := List.mem_filter.1 hs
        refine (h.stands s hmem).concat fun t ht hparse => ?_
        injection ht with ht
        rw [← ht] at hparse
        injection htext.symm.trans hparse with hsame
        exact absurd hsame.symm (by simpa using hkept)

/-- Edits with literals have an account. -/
theorem exists_stamped (edits : List Edit)
    (hliteral : ∀ e ∈ edits, (Address.parse e.text).isValid = true) :
    ∃ stamps, Stamped edits stamps := by
  induction edits using List.reverseRecOn with
  | nil => exact ⟨[], rfl, List.nodup_nil, .nil, nofun⟩
  | append_singleton edits e ih =>
      obtain ⟨stamps, hstamps⟩ :=
        ih fun x hx => hliteral x (List.mem_append_left _ hx)
      have he := hliteral e (by simp)
      cases htext : Address.parse e.text with
      | block b => exact hstamps.edit htext
      | other t =>
          rw [htext] at he
          cases he

-- =========================================================== meaning

/-- A host is ignored when it lies in a network that is listed. -/
theorem ignores_host {l : IgnoreList} {nets : List Block}
    (hl : l.Holds nets) (h : Block) (names : Resolver) :
    (l.consult (.block h) names).value = true
      ↔ ∃ n ∈ nets, n.family = h.family ∧ n.Holds h.base := by
  rw [value_consult, ignores, show l.entries = _ from hl, List.any_map,
    List.any_eq_true]
  exact exists_congr fun n => and_congr_right fun _ => n.contains_iff h

/-- After any edits whose texts write networks, in whatever spelling: the
entries are networks, no two of them the same, in the order in which they
were added. To add one more answers whether none of them is the same,
and lists it behind the others if so; to remove one answers whether one
of them is the same, and removes that one alone. A single host is ignored
exactly when it is of the family of some entry and lies between its first
address and its last, whatever names resolve to. -/
theorem entries_mean_their_networks (edits : List Edit)
    (hliteral : ∀ e ∈ edits, (Address.parse e.text).isValid = true) :
    let l := run {} edits
    ∃ nets : List Block, l.Holds nets
      ∧ nets.Pairwise (fun n m => ¬ n.Same m)
      ∧ (∃ stamps : List (Nat × Block), nets = stamps.map Prod.snd
          ∧ stamps.Pairwise (·.1 < ·.1)
          ∧ ∀ s ∈ stamps, Stands edits s.1 s.2)
      ∧ (∀ text b, Address.parse text = .block b →
          ((l.add text).2 = true ↔ ∀ n ∈ nets, ¬ n.Same b)
          ∧ ((l.add text).2 = true → (l.add text).1.Holds (nets ++ [b]))
          ∧ ((l.add text).2 = false → (l.add text).1.Holds nets)
          ∧ ((l.remove text).2 = true ↔ ∃ n ∈ nets, n.Same b)
          ∧ ((l.remove text).2 = false → (l.remove text).1.Holds nets)
          ∧ ∀ before n after, nets = before ++ n :: after → n.Same b →
              (l.remove text).1.Holds (before ++ after))
      ∧ ∀ (h : Block) (names : Resolver), h.isHost = true →
          ((l.consult (.block h) names).value = true
            ↔ ∃ n ∈ nets, n.family = h.family ∧ n.base ≤ h.base
              ∧ h.base ≤ n.base + 2 ^ (n.family.width - n.length) - 1) := by
  intro l
  obtain ⟨stamps, hstamps⟩ := exists_stamped edits hliteral
  refine ⟨stamps.map Prod.snd, hstamps.holds, ?_,
    ⟨stamps, rfl, hstamps.ordered, hstamps.stands⟩, ?_, ?_⟩
  · exact hstamps.distinct.imp fun hne hsame =>
      hne (Block.same_iff_eq.1 hsame)
  · intro text b htext
    obtain ⟨hnew, hadded, hkept⟩ := add_same hstamps.holds htext
    exact ⟨hnew, hadded, hkept,
      remove_same hstamps.holds hstamps.distinct htext⟩
  · intro h names _
    rw [ignores_host hstamps.holds]
    simp only [Block.holds_iff_between]

/-- One network in two spellings, and another that is removed again. -/
def spellings : List Edit :=
  [.add "10.1.2.3/8", .add " [::FFFF:10.0.0.0]/104", .add "2001:db8::/32",
    .remove "[2001:DB8:0:0::1]/32"]

/-- The network 10.0.0.0/8. -/
def tens : Block :=
  (Block.covering? .v4 0x0a000000 8).get (by decide)

/-- The last host of it. -/
def lastOfTens : Block :=
  (Block.covering? .v4 0x0affffff 32).get (by decide)

/-- The list holds the network once. A third spelling of it is no new
entry, and its last host is ignored. -/
theorem spellings_mean_one_network :
    (∀ e ∈ spellings, (Address.parse e.text).isValid = true)
      ∧ (run {} spellings).Holds [tens]
      ∧ Address.parse "::ffff:10.9.9.9/104" = .block tens
      ∧ ((run {} spellings).add "::ffff:10.9.9.9/104").2 = false
      ∧ lastOfTens.isHost = true
      ∧ ((run {} spellings).consult (.block lastOfTens)).value = true := by
  have hliteral : ∀ e ∈ spellings, (Address.parse e.text).isValid = true := by
    decide +kernel
  have hlist : (run {} spellings).Holds [tens] := by
    unfold Holds
    decide +kernel
  have htext : Address.parse "::ffff:10.9.9.9/104" = .block tens := by
    decide +kernel
  obtain ⟨nets, hnets, -, -, hedits, hhosts⟩ :=
    entries_mean_their_networks spellings hliteral
  have hmem : tens ∈ nets :=
    (contains_net hnets).1 ((contains_net hlist).2 List.mem_cons_self)
  refine ⟨hliteral, hlist, htext, ?_, rfl, ?_⟩
  · rw [Bool.eq_false_iff, ne_eq, (hedits _ tens htext).1]
    exact fun hnone => hnone tens hmem (Block.same_iff_eq.2 rfl)
  · exact (hhosts lastOfTens numericHosts rfl).2
      ⟨tens, hmem, rfl, by decide, by decide⟩

end IgnoreList

end Gatewatch.Net
