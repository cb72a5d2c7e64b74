/-
What the host mark stands for, as nodes.

A failure pattern is text in front of the mark, the mark, and what is
behind it. Its text is read once the mark is replaced, so the nodes of
the mark are read in the middle of a pattern, with the nodes in front of
it on the pile (`readChoice_lead`, `readChoice_host`). For plain text in
front and the end of the line behind the mark, the pattern is those nodes
one after the other (`addFail_mark`), and it is accepted when they are
not too heavy: only what is in front counts, the mark has always the same
weight.
-/
import Gatewatch.Filter.Patterns
import Gatewatch.Proofs.Pattern.Preferred
import Gatewatch.Proofs.Pattern.Reading
import Gatewatch.Proofs.Text.Replace
import Mathlib.Algebra.GroupWithZero.Nat

namespace Gatewatch.Filter.HostMark

open Pattern

-- =========================================================== the nodes

/-- The digits of the groups of an address. -/
def hexDigits : CharSet :=
  ((CharSet.none.union (.range '0' '9')).union (.range 'a' 'f')).union
    (.range 'A' 'F')

/-- The characters of a host name. -/
def nameSet : CharSet :=
  ((((CharSet.none.union (.word true)).union (.single '-')).union
    (.single '.')).union (.single '^')).union (.single '_')

/-- A character that stands for itself. -/
def plainNode (c : Char) : Node := .set (.single c)

/-- A group of an address, perhaps an empty one. -/
def groupNode : Node := .run hexDigits 0 (some 4) true

/-- A colon and a group. -/
def rowNode : Node := .seq (plainNode ':') groupNode

/-- Three to eight groups. -/
def sixNode : Node :=
  .seq groupNode (.seq (.times 2 rowNode) (.atMost 5 rowNode true))

/-- A name that ends in a character of a word. -/
def nameNode : Node := .seq (.run nameSet 0 none true) (.set (.word true))

/-- The lead of an IPv4 address inside IPv6. -/
def leadNode : Node :=
  .concat [plainNode ':', plainNode ':',
    .run (.single 'f') 4 (some 6) true, plainNode ':']

/-- The group named `host`. -/
def hostNode : Node := .group 1 (some "host") (.alt sixNode nameNode)

/-- The mark and the end of the line. -/
def markNodes : List Node :=
  [leadNode.optional true, hostNode, .look .lineEnd]

-- ======================================================== the spelling

/-- The flags of a failure pattern. -/
def lineFlags : Flags := { multiLine := true }

def leadChars : List Char :=
  ['(', '?', ':', ':', ':', 'f', '\x7b', '4', ',', '6', '\x7d', ':', ')',
    '?']

def openChars : List Char := ['(', '?', 'P', '<', 'h', 'o', 's', 't', '>']

def groupChars : List Char :=
  ['[', '0', '-', '9', 'a', '-', 'f', 'A', '-', 'F', ']', '\x7b', '0', ',',
    '4', '\x7d']

def rowChars : List Char :=
  '(' :: '?' :: ':' :: ':' :: groupChars
    ++ [')', '\x7b', '2', ',', '7', '\x7d']

def nameChars : List Char :=
  ['[', '\\', 'w', '\\', '-', '.', '^', '_', ']', '*', '\\', 'w']

theorem toList_hostPattern :
    hostPattern.toList
      = leadChars ++ (openChars
        ++ (groupChars ++ rowChars ++ '|' :: nameChars ++ [')'])) := by
  decide

-- ========================================================= the reading

variable {fuel groups : Nat} {names : List String}
  {branches : List Phrase} {items : List (Option Phrase)}
  {rest : List Char}

theorem readClass_hexDigits :
    readClass (fuel + 20) ⟨'0' :: '-' :: '9' :: 'a' :: '-' :: 'f' :: 'A'
        :: '-' :: 'F' :: ']' :: rest, lineFlags, groups, names⟩
      = some (⟨hexDigits, 2⟩, ⟨rest, lineFlags, groups, names⟩) := by
  refine readClass_member rfl (by decide) rfl ?_
  refine (readItems_range rfl (by decide) rfl).trans ?_
  refine (readItems_range rfl (by decide) rfl).trans ?_
  refine (readItems_range rfl (by decide) rfl).trans ?_
  exact readItems_close rfl

theorem readClass_nameSet :
    readClass (fuel + 20) ⟨'\\' :: 'w' :: '\\' :: '-' :: '.' :: '^' :: '_'
        :: ']' :: rest, lineFlags, groups, names⟩
      = some (⟨nameSet, 2⟩, ⟨rest, lineFlags, groups, names⟩) := by
  refine readClass_member rfl (by decide) rfl ?_
  refine (readItems_range rfl (by decide) rfl).trans ?_
  refine (readItems_range rfl (by decide) rfl).trans ?_
  refine (readItems_range rfl (by decide) rfl).trans ?_
  refine (readItems_range rfl (by decide) rfl).trans ?_
  refine (readItems_range rfl (by decide) rfl).trans ?_
  exact readItems_close rfl

theorem readChoice_group (hrest : rest.head? ≠ some '?') :
    readChoice (fuel + 22) branches items
        ⟨groupChars ++ rest, lineFlags, groups, names⟩
      = readChoice (fuel + 20) branches (some ⟨groupNode, 3⟩ :: items)
        ⟨rest, lineFlags, groups, names⟩ := by
  have hcounts : readCounts
      ⟨'0' :: ',' :: '4' :: '\x7d' :: rest, lineFlags, groups, names⟩
        = some ((0, some 4), ⟨rest, lineFlags, groups, names⟩) := by
    rfl
  refine (readChoice_class rfl readClass_hexDigits).trans ?_
  exact readChoice_counts rfl hcounts hrest

theorem readChoice_rows (hrest : rest.head? ≠ some '?') :
    readChoice (fuel + 25) branches items
        ⟨rowChars ++ rest, lineFlags, groups, names⟩
      = readChoice (fuel + 23) branches
        (some ⟨rowNode.repeated 2 (some 7) true, 6⟩ :: items)
        ⟨rest, lineFlags, groups, names⟩ := by
  have hcounts : readCounts
      ⟨'2' :: ',' :: '7' :: '\x7d' :: rest, lineFlags, groups, names⟩
        = some ((2, some 7), ⟨rest, lineFlags, groups, names⟩) := by
    rfl
  have hbody : readChoice (fuel + 23) [] []
      ⟨':' :: groupChars ++ ')' :: '\x7b' :: '2' :: ',' :: '7' :: '\x7d'
        :: rest, lineFlags, groups, names⟩
        = some (⟨rowNode, 4⟩, ⟨')' :: '\x7b' :: '2' :: ',' :: '7' :: '\x7d'
          :: rest, lineFlags, groups, names⟩) := by
    refine (readChoice_char rfl (by decide)).trans ?_
    refine (readChoice_group (by simp)).trans ?_
    exact readChoice_close rfl
  refine (readChoice_open rfl (readGroup_colon hbody)).trans ?_
  exact readChoice_counts rfl hcounts hrest

theorem readChoice_name :
    readChoice (fuel + 24) branches []
        ⟨nameChars ++ ')' :: rest, lineFlags, groups, names⟩
      = some (.choice (⟨nameNode, 4⟩ :: branches).reverse,
        ⟨')' :: rest, lineFlags, groups, names⟩) := by
  have hword : readEscape ⟨'w' :: ')' :: rest, lineFlags, groups, names⟩
      = some (.charSet (.word true),
        ⟨')' :: rest, lineFlags, groups, names⟩) := by
    rfl
  refine (readChoice_class rfl readClass_nameSet).trans ?_
  refine (readChoice_star rfl (by simp)).trans ?_
  refine (readChoice_escape rfl hword rfl).trans ?_
  exact readChoice_close rfl

/-- The lead is read to its node. -/
theorem readChoice_lead :
    readChoice (fuel + 10) branches items
        ⟨leadChars ++ '(' :: rest, lineFlags, groups, names⟩
      = readChoice (fuel + 8) branches
        (some ⟨leadNode.optional true, 4⟩ :: items)
        ⟨'(' :: rest, lineFlags, groups, names⟩ := by
  have hcounts : readCounts ⟨'4' :: ',' :: '6' :: '\x7d' :: ':' :: ')'
      :: '?' :: '(' :: rest, lineFlags, groups, names⟩
        = some ((4, some 6), ⟨':' :: ')' :: '?' :: '(' :: rest, lineFlags,
          groups, names⟩) := by
    rfl
  have hbody : readChoice (fuel + 8) [] []
      ⟨':' :: ':' :: 'f' :: '\x7b' :: '4' :: ',' :: '6' :: '\x7d' :: ':'
        :: ')' :: '?' :: '(' :: rest, lineFlags, groups, names⟩
        = some (⟨leadNode, 2⟩, ⟨')' :: '?' :: '(' :: rest, lineFlags, groups,
          names⟩) := by
    refine (readChoice_char rfl (by decide)).trans ?_
    refine (readChoice_char rfl (by decide)).trans ?_
    refine (readChoice_char rfl (by decide)).trans ?_
    refine (readChoice_counts rfl hcounts (by simp)).trans ?_
    refine (readChoice_char rfl (by decide)).trans ?_
    exact readChoice_close rfl
  refine (readChoice_open rfl (readGroup_colon hbody)).trans ?_
  exact readChoice_question rfl (by simp)

/-- The group of the host is read to its node. -/
theorem readChoice_host :
    readChoice (fuel + 40) branches items
        ⟨openChars ++ (groupChars ++ rowChars ++ '|' :: nameChars ++ [')'])
          ++ rest, lineFlags, 0, []⟩
      = readChoice (fuel + 39) branches (some ⟨hostNode, 9⟩ :: items)
        ⟨rest, lineFlags, 1, ["host"]⟩ := by
  have hname : ∀ after : List Char,
      readName ⟨'h' :: 'o' :: 's' :: 't' :: '>' :: after, lineFlags, 1, []⟩
        = some ("host", ⟨after, lineFlags, 1, ["host"]⟩) := by
    intro after
    rfl
  have hbody : readChoice (fuel + 38) [] []
      ⟨groupChars ++ (rowChars ++ '|' :: (nameChars ++ ')' :: rest)),
        lineFlags, 1, ["host"]⟩
        = some (⟨.alt sixNode nameNode, 8⟩,
          ⟨')' :: rest, lineFlags, 1, ["host"]⟩) := by
    refine (readChoice_group (by simp [rowChars])).trans ?_
    refine (readChoice_rows (by simp)).trans ?_
    refine (readChoice_bar rfl).trans ?_
    exact readChoice_name
  simp only [List.append_assoc, List.cons_append, List.nil_append]
  exact readChoice_open rfl (readGroup_named (hname _) hbody)

/-- The mark and the end of the line, as they are read. -/
def markItems : List (Option Phrase) :=
  [some ⟨leadNode.optional true, 4⟩, some ⟨hostNode, 9⟩,
    some ⟨.look .lineEnd, 0⟩]

/-- Plain text, the mark and the end of a line. -/
def lineItems (lead : List Char) : List (Option Phrase) :=
  lead.map (fun c => some ⟨plainNode c, 0⟩) ++ markItems

theorem node_lineItems (lead : List Char) :
    (Phrase.concat (lineItems lead)).node
      = .concat (lead.map plainNode ++ markNodes) := by
  simp [Phrase.concat, lineItems, markItems, markNodes]

theorem height_lineItems (lead : List Char) :
    (Phrase.concat (lineItems lead)).height ≤ maxHeight := by
  refine (Phrase.height_concat_le (n := 9) ?_).trans (by decide)
  intro a ha
  rcases List.mem_append.1 ha with ha | ha
  · obtain ⟨c, -, ha⟩ := List.mem_map.1 ha
    cases ha
    exact Nat.zero_le 9
  · simp only [markItems, List.mem_cons, List.not_mem_nil] at ha
    rcases ha with ha | ha | ha | ha
    all_goals cases ha
    all_goals decide

/-- Plain text, the mark and the end of a line are read to their nodes. -/
theorem read?_mark {lead : List Char}
    (hlead : ∀ c ∈ lead, c ∉ specialChars) :
    Node.read? lineFlags (String.ofList (lead ++ (hostPattern.toList ++ ['$'])))
      = some (.concat (lead.map plainNode ++ markNodes)) := by
  have hlength : hostPattern.toList.length = 79 := by decide
  have hread : ∀ fuel, readChoice (fuel + 50 + lead.length) [] []
      ⟨lead ++ (hostPattern.toList ++ ['$']), lineFlags, 0, []⟩
        = some (.concat (lineItems lead),
          ⟨[], lineFlags, 1, ["host"]⟩) := by
    intro fuel
    rw [toList_hostPattern, List.append_assoc]
    refine (readChoice_chars rfl hlead).trans ?_
    refine readChoice_lead.trans ?_
    refine readChoice_host.trans ?_
    refine (readChoice_end rfl).trans ?_
    refine (readChoice_nil rfl).trans ?_
    simp [lineItems, markItems, endNode, lineFlags]
    rfl
  have hfuel : 2 * (lead ++ (hostPattern.toList ++ ['$'])).length + 2
      = lead.length + 112 + 50 + lead.length := by
    rw [List.length_append, List.length_append, hlength, List.length_singleton]
    omega
  unfold Node.read?
  rw [String.toList_ofList]
  simp only [hfuel, hread]
  simp [height_lineItems, node_lineItems]

-- ========================================================== the weight

theorem weight_foldl_seq (a : Node) (nodes : List Node) :
    (nodes.foldl .seq a).weight
      = a.weight + (nodes.map Node.weight).sum := by
  induction nodes generalizing a with
  | nil => rfl
  | cons b nodes ih =>
      rw [List.foldl_cons, ih, List.map_cons, List.sum_cons,
        ← Nat.add_assoc]
      rfl

/-- The weight of the mark and the end of the line. -/
def markWeight : Nat := (markNodes.map Node.weight).sum

theorem weight_mark (lead : List Char) :
    (Node.concat (lead.map plainNode ++ markNodes)).weight
      = Text.width lead + markWeight := by
  have hsum : ∀ lead : List Char,
      ((lead.map plainNode).map Node.weight).sum = Text.width lead := by
    intro lead
    induction lead with
    | nil => rfl
    | cons c lead ih =>
        rw [List.map_cons, List.map_cons, List.sum_cons, ih]
        rfl
  cases lead with
  | nil => rw [List.map_nil, List.nil_append, Text.width_nil, Nat.zero_add]; rfl
  | cons c lead =>
      rw [List.map_cons, List.cons_append]
      show Node.weight (List.foldl _ _ _) = _
      rw [weight_foldl_seq, List.map_append, List.sum_append, hsum,
        Text.width_cons, ← Nat.add_assoc]
      rfl

/-- The only group is that of the host. -/
theorem groupNames_mark (lead : List Char) :
    (Node.concat (lead.map plainNode ++ markNodes)).groupNames
      = [("host", 1)] := by
  have hplain : (lead.map plainNode).flatMap Node.groupNames = [] := by
    rw [List.flatMap_eq_nil_iff]
    intro a ha
    obtain ⟨c, -, rfl⟩ := List.mem_map.1 ha
    rfl
  rw [Node.groupNames_concat, List.flatMap_append, hplain]
  rfl

-- ========================================================= the pattern

/-- A text that ends a line with the mark, behind plain text. -/
def lineOf (lead : String) : String := lead ++ hostMark ++ "$"

/-- No mark begins in the text in front of it. -/
theorem not_begins {lead : List Char}
    (hmark : ¬ hostMark.toList <:+: lead) :
    ¬ Text.Begins hostMark.toList lead (hostMark.toList ++ ['$']) := by
  rintro ⟨back, hne, hback, hbegins⟩
  rcases List.prefix_or_prefix_of_prefix hbegins
    (List.prefix_append back (hostMark.toList ++ ['$'])) with hfront | hfront
  · exact hmark (hfront.isInfix.trans hback.isInfix)
  · obtain ⟨tail, htail⟩ := hfront
    rw [← htail, List.prefix_append_right_inj, htail] at hbegins
    -- what is left of the mark would be in front of the next one
    have hnever : ∀ k < 6, 0 < k →
        ¬ hostMark.toList.drop k <+: hostMark.toList ++ ['$'] := by decide
    have hlength : back.length + tail.length = 6 := by
      rw [← List.length_append, htail]
      rfl
    have hdrop : hostMark.toList.drop back.length = tail := by
      rw [← htail, List.drop_left]
    by_cases hwhole : tail = []
    · rw [hwhole, List.append_nil] at htail
      exact hmark (htail ▸ hback.isInfix)
    · have hpos := List.length_pos_iff.2 hne
      have htailpos := List.length_pos_iff.2 hwhole
      refine hnever back.length (by omega) hpos ?_
      rw [hdrop]
      exact hbegins

theorem replaceAll_lineOf {lead : String}
    (hmark : ¬ hostMark.toList <:+: lead.toList) :
    Text.replaceAll (lineOf lead) hostMark hostPattern
      = String.ofList (lead.toList ++ (hostPattern.toList ++ ['$'])) := by
  have htext : (lineOf lead).toList
      = lead.toList ++ (hostMark.toList ++ ['$']) := by
    unfold lineOf
    rw [String.toList_append, String.toList_append, List.append_assoc]
    rfl
  have hreplaced : Text.replaceChars hostMark.toList hostPattern.toList
      (hostMark.toList ++ ['$']) = hostPattern.toList ++ ['$'] := by
    have hend : Text.replaceChars hostMark.toList hostPattern.toList ['$']
        = ['$'] := by
      rw [Text.replaceChars, if_neg (by decide), Text.replaceChars]
    rw [Text.replaceChars_mark_append (by decide), hend]
  unfold Text.replaceAll
  rw [htext, Text.replaceChars_append_of_not_begins (not_begins hmark),
    hreplaced]

/-- The pattern of plain text, the mark and the end of a line. -/
def pattern (lead : String) : LinePattern :=
  ⟨lineOf lead, ⟨Text.replaceAll (lineOf lead) hostMark hostPattern,
    .concat (lead.toList.map plainNode ++ markNodes)⟩⟩

/-- Such a pattern is accepted exactly when it is not too heavy. -/
theorem addFail_lineOf {lead : String}
    (hlead : ∀ c ∈ lead.toList, c ∉ specialChars)
    (hmark : ¬ hostMark.toList <:+: lead.toList) :
    Patterns.addFail {} (lineOf lead)
      = if Text.width lead.toList + markWeight ≤ maxWeight then
          .ok { fail := [pattern lead] }
        else .error (.badPattern (lineOf lead)) := by
  have hblank : Text.isBlank (lineOf lead) = false := by
    have hlast : Unicode.isBlank '$' = false := by decide
    unfold Text.isBlank lineOf
    rw [String.toList_append, List.all_append]
    show (_ && (Unicode.isBlank '$' && true)) = false
    rw [hlast, Bool.false_and, Bool.and_false]
  have hread : Pattern.read? true
      (Text.replaceAll (lineOf lead) hostMark hostPattern)
        = if Text.width lead.toList + markWeight ≤ maxWeight then
            some (pattern lead).pattern
          else none := by
    have hroot := read?_mark hlead
    rw [← replaceAll_lineOf hmark] at hroot
    unfold Pattern.read? pattern
    rw [← weight_mark]
    show (Node.read? lineFlags _).bind _ = _
    rw [hroot, Option.bind_some]
    by_cases hfits :
        (Node.concat (lead.toList.map plainNode ++ markNodes)).weight
          ≤ maxWeight
    · rw [if_pos hfits]
      simp [hfits, guard]
    · rw [if_neg hfits]
      simp only [guard, if_neg hfits]
      rfl
  have hgroup : (pattern lead).pattern.hasGroup "host" = true := by
    unfold Pattern.hasGroup pattern
    rw [groupNames_mark]
    rfl
  unfold Patterns.addFail LinePattern.read
  rw [hblank, hread, if_neg Bool.false_ne_true]
  by_cases hfits : Text.width lead.toList + markWeight ≤ maxWeight
  · rw [if_pos hfits, if_pos hfits]
    show (if (pattern lead).pattern.hasGroup "host" = true then _ else _) = _
    rw [if_pos hgroup]
    rfl
  · rw [if_neg hfits, if_neg hfits]
    rfl

end Gatewatch.Filter.HostMark
