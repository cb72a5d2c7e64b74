/-
What a user's pattern is read to.

A pattern writes each field with a percent sign before its letter and the
other characters as they are, perhaps with a circumflex in front that ties it
to the start of the line. It comes apart into its pieces again
(`pieces_spelling`), each field becomes a group with its letter for a
name, and the other characters match themselves
(`readChoice_layout`). So the template of a layout is known, when the
pattern is not too heavy (`ofFields_spelling`).
-/
import Gatewatch.Proofs.Date.Stamp
import Gatewatch.Proofs.Pattern.Reading

namespace Gatewatch.Date

open Pattern

-- ============================================================= spelling

/-- A piece as it is written in a pattern. -/
def Piece.spelling : Piece → List Char
  | text c => [c]
  | field letter => ['%', letter]

/-- A layout whose separators mean nothing else in a pattern. -/
def IsPlain (layout : List Piece) : Prop :=
  ∀ c, Piece.text c ∈ layout → c ∉ '%' :: specialChars

/-- The pattern of a layout, at the start of the line or anywhere. -/
def spelling (anchored : Bool) (layout : List Piece) : String :=
  String.ofList
    ((if anchored then ['^'] else []) ++ layout.flatMap Piece.spelling)

-- ================================================================ nodes

/-- The least number of digits that a field takes. -/
def fewest : Char → Nat
  | 'Y' => 4
  | 'm' => 1
  | 'd' => 1
  | _ => 2

theorem fewest_le (letter : Char) : fewest letter ≤ Stamp.places letter := by
  unfold fewest
  split
  case h_1 => exact Nat.le_refl 4
  all_goals
    unfold Stamp.places
    split <;> decide

/-- The group of a field. -/
def fieldNode (index : Nat) (letter : Char) : Node :=
  .group index (some (String.singleton letter))
    (.run (.digit true) (fewest letter) (some (Stamp.places letter)) true)

/-- The nodes of a layout, behind some groups. -/
def nodes : Nat → List Piece → List Node
  | _, [] => []
  | groups, .text c :: layout => .set (.single c) :: nodes groups layout
  | groups, .field letter :: layout =>
    fieldNode (groups + 1) letter :: nodes (groups + 1) layout

/-- The node of a pattern. -/
def root (anchored : Bool) (layout : List Piece) : Node :=
  .concat ((if anchored then [.look .textStart] else []) ++ nodes 0 layout)

-- ============================================================== reading

variable {fuel groups : Nat} {names : List String}
  {branches : List Phrase} {items : List (Option Phrase)}
  {rest : List Char} {letter : Char}

/-- The counts of a field, with the closing brace. -/
def countsText : Char → List Char
  | 'Y' => ['4', '\x7d']
  | 'm' => ['1', ',', '2', '\x7d']
  | 'd' => ['1', ',', '2', '\x7d']
  | _ => ['2', '\x7d']

theorem mem_letters : letter ∈ letters
    ↔ letter = 'Y' ∨ letter = 'm' ∨ letter = 'd' ∨ letter = 'H'
      ∨ letter = 'M' ∨ letter = 'S' := by
  simp [letters]

theorem toList_pattern_field (hletter : letter ∈ letters) :
    (Piece.field letter).pattern.toList
      = '(' :: '?' :: 'P' :: '<' :: letter :: '>' :: '\\' :: 'd' :: '\x7b'
        :: (countsText letter ++ [')']) := by
  rcases mem_letters.1 hletter with rfl | rfl | rfl | rfl | rfl | rfl
  all_goals rfl

theorem readCounts_field (hletter : letter ∈ letters) :
    readCounts ⟨countsText letter ++ rest, {}, groups, names⟩
      = some ((fewest letter, some (Stamp.places letter)),
        ⟨rest, {}, groups, names⟩) := by
  rcases mem_letters.1 hletter with rfl | rfl | rfl | rfl | rfl | rfl
  all_goals rfl

theorem repeated_field (hletter : letter ∈ letters) (s : CharSet) :
    (Node.set s).repeated (fewest letter) (some (Stamp.places letter)) true
      = .run s (fewest letter) (some (Stamp.places letter)) true := by
  rcases mem_letters.1 hletter with rfl | rfl | rfl | rfl | rfl | rfl
  all_goals rfl

theorem readName_field (hletter : letter ∈ letters)
    (hnew : String.singleton letter ∉ names) :
    readName ⟨letter :: '>' :: rest, {}, groups, names⟩
      = some (String.singleton letter,
        ⟨rest, {}, groups, String.singleton letter :: names⟩) := by
  have hname : (letter :: '>' :: rest).takeWhile (· != '>') = [letter] := by
    rcases mem_letters.1 hletter with rfl | rfl | rfl | rfl | rfl | rfl
    all_goals rfl
  have halpha : Unicode.isAlphabetic letter = true := by
    rcases mem_letters.1 hletter with rfl | rfl | rfl | rfl | rfl | rfl
    all_goals decide +kernel
  have hofList : String.ofList [letter] = String.singleton letter := rfl
  unfold readName
  simp [hname, halpha, hofList, hnew, guard]

/-- A field is read to its group. -/
theorem readChoice_field (hletter : letter ∈ letters)
    (hnew : String.singleton letter ∉ names) :
    readChoice (fuel + 5) branches items
        ⟨(Piece.field letter).pattern.toList ++ rest, {}, groups, names⟩
      = readChoice (fuel + 4) branches
        (some ⟨fieldNode (groups + 1) letter, 2⟩ :: items)
        ⟨rest, {}, groups + 1, String.singleton letter :: names⟩ := by
  have hescape : ∀ after groups names,
      readEscape ⟨'d' :: after, {}, groups, names⟩
        = some (.charSet (.digit true), ⟨after, {}, groups, names⟩) := by
    intros
    rfl
  have hbody : readChoice (fuel + 3) [] []
      ⟨'\\' :: 'd' :: '\x7b' :: (countsText letter ++ ')' :: rest), {},
        groups + 1, String.singleton letter :: names⟩
      = some (⟨.run (.digit true) (fewest letter)
          (some (Stamp.places letter)) true, 1⟩,
        ⟨')' :: rest, {}, groups + 1, String.singleton letter :: names⟩) := by
    refine (readChoice_escape rfl (hescape _ _ _) rfl).trans ?_
    refine (readChoice_counts rfl (readCounts_field hletter)
      (by simp)).trans ?_
    refine (readChoice_close rfl).trans ?_
    exact congrArg (fun node => some ((⟨node, 1⟩ : Phrase), _))
      (repeated_field hletter _)
  rw [toList_pattern_field hletter]
  simp only [List.cons_append, List.append_assoc, List.nil_append]
  exact readChoice_open rfl
    (readGroup_named (readName_field hletter hnew) hbody)

/-- The pattern text of a layout. -/
def patternText (layout : List Piece) : List Char :=
  layout.flatMap fun piece => piece.pattern.toList

/-- The separators and the fields of a layout are read to their nodes,
and none of them nests deeper than a field does. -/
theorem readChoice_layout {layout : List Piece} (hplain : IsPlain layout)
    (hletters : ∀ letter ∈ layout.filterMap Piece.letter?, letter ∈ letters)
    (hnames : (layout.filterMap Piece.letter?).Nodup)
    (hnew : ∀ letter ∈ layout.filterMap Piece.letter?,
      String.singleton letter ∉ names)
    (hfuel : (patternText layout).length < fuel) :
    ∃ (phrases : List Phrase) (groups' : Nat) (names' : List String),
      phrases.map Phrase.node = nodes groups layout
      ∧ (∀ a ∈ phrases, a.height ≤ 2)
      ∧ readChoice fuel branches items
          ⟨patternText layout, {}, groups, names⟩
        = some (.choice
            (.concat (items.reverse ++ phrases.map some) :: branches).reverse,
          ⟨[], {}, groups', names'⟩) := by
  induction layout generalizing fuel items groups names with
  | nil =>
      obtain ⟨fuel, rfl⟩ : ∃ k, fuel = k + 1 := ⟨fuel - 1, by omega⟩
      refine ⟨[], groups, names, rfl, by simp, ?_⟩
      rw [show patternText [] = [] from rfl, readChoice_nil rfl,
        List.map_nil, List.append_nil]
  | cons piece layout ih =>
      have hmore : IsPlain layout := fun c hc =>
        hplain c (List.mem_cons_of_mem piece hc)
      have htext : patternText (piece :: layout)
          = piece.pattern.toList ++ patternText layout := List.flatMap_cons
      have hpile : ∀ (a : Phrase) (phrases : List Phrase),
          (some a :: items).reverse ++ phrases.map some
            = items.reverse ++ (a :: phrases).map some := by
        simp
      rw [htext, List.length_append] at hfuel
      rw [htext]
      cases piece with
      | text c =>
          have hc : c ∉ specialChars := fun h =>
            hplain c List.mem_cons_self (List.mem_cons_of_mem '%' h)
          have hchar : (Piece.text c).pattern.toList = [c] :=
            String.toList_singleton c
          rw [hchar, List.length_singleton] at hfuel
          obtain ⟨fuel, rfl⟩ : ∃ k, fuel = k + 1 := ⟨fuel - 1, by omega⟩
          obtain ⟨phrases, groups', names', hnodes, hheights, hread⟩ :=
            @ih fuel groups names (some ⟨charNode {} c, 0⟩ :: items) hmore
              hletters hnames hnew (by omega)
          refine ⟨⟨charNode {} c, 0⟩ :: phrases, groups', names', ?_,
            List.forall_mem_cons.2 ⟨Nat.zero_le 2, hheights⟩, ?_⟩
          · rw [List.map_cons, hnodes]
            rfl
          · rw [hchar, List.singleton_append]
            refine (readChoice_char rfl hc).trans ?_
            rw [hread, hpile]
      | field letter =>
          have hletter : letter ∈ letters :=
            hletters letter List.mem_cons_self
          obtain ⟨hfirst, hnames⟩ := List.nodup_cons.1 hnames
          have hlong : 5 ≤ (Piece.field letter).pattern.toList.length := by
            rw [toList_pattern_field hletter]
            simp
          obtain ⟨fuel, rfl⟩ : ∃ k, fuel = k + 5 := ⟨fuel - 5, by omega⟩
          have hnewer : ∀ other ∈ layout.filterMap Piece.letter?,
              String.singleton other ∉ String.singleton letter :: names := by
            intro other hother
            rw [List.mem_cons, not_or]
            refine ⟨fun h => hfirst ?_,
              hnew other (List.mem_cons_of_mem letter hother)⟩
            rwa [← String.singleton_inj.1 h]
          obtain ⟨phrases, groups', names', hnodes, hheights, hread⟩ :=
            @ih (fuel + 4) (groups + 1) _
              (some ⟨fieldNode (groups + 1) letter, 2⟩ :: items) hmore
              (fun other h => hletters other (List.mem_cons_of_mem letter h))
              hnames hnewer (by omega)
          refine ⟨⟨fieldNode (groups + 1) letter, 2⟩ :: phrases, groups',
            names', ?_, List.forall_mem_cons.2 ⟨le_rfl, hheights⟩, ?_⟩
          · rw [List.map_cons, hnodes]
            rfl
          · rw [readChoice_field hletter (hnew letter List.mem_cons_self),
              hread, hpile]

-- ============================================================= template

/-- What ties a pattern to the start of the line. -/
def anchor (anchored : Bool) : String := if anchored then "^" else ""

/-- The pattern text of a layout is read to its node. -/
theorem read?_layout (anchored : Bool) {layout : List Piece}
    (hlayout : IsLayout layout) (hplain : IsPlain layout) :
    Node.read? {} (anchor anchored ++ String.join (layout.map Piece.pattern))
      = some (root anchored layout) := by
  have hletters : ∀ letter ∈ layout.filterMap Piece.letter?,
      letter ∈ letters := fun letter h => hlayout.mem_iff.1 h
  have hnames : (layout.filterMap Piece.letter?).Nodup :=
    hlayout.nodup_iff.2 (by decide)
  have htext : (String.join (layout.map Piece.pattern)).toList
      = patternText layout := by
    rw [String.toList_join, List.flatMap_map]
    rfl
  have hread : ∀ fuel items, (patternText layout).length < fuel →
      ∃ (phrases : List Phrase) (groups : Nat) (names : List String),
        phrases.map Phrase.node = nodes 0 layout
        ∧ (∀ a ∈ phrases, a.height ≤ 2)
        ∧ readChoice fuel [] items ⟨patternText layout, {}, 0, []⟩
          = some (.concat (items.reverse ++ phrases.map some),
            ⟨[], {}, groups, names⟩) := fun fuel items hfuel =>
    readChoice_layout hplain hletters hnames
      (fun letter h => List.not_mem_nil) hfuel
  have hcase : ∃ (phrases : List Phrase) (groups : Nat)
      (names : List String),
      Node.concat (phrases.map Phrase.node) = root anchored layout
      ∧ (∀ a ∈ phrases, a.height ≤ 2)
      ∧ readChoice
          (2 * ((anchor anchored).toList ++ patternText layout).length + 2)
          [] []
          ⟨(anchor anchored).toList ++ patternText layout, {}, 0, []⟩
        = some (.concat (phrases.map some), ⟨[], {}, groups, names⟩) := by
    cases anchored
    · obtain ⟨phrases, groups, names, hnodes, hheights, htail⟩ :=
        hread (2 * (patternText layout).length + 2) [] (by omega)
      exact ⟨phrases, groups, names, congrArg Node.concat hnodes, hheights,
        htail⟩
    · obtain ⟨phrases, groups, names, hnodes, hheights, htail⟩ := hread
        (2 * (patternText layout).length + 3) [some ⟨startNode {}, 0⟩]
        (by omega)
      refine ⟨⟨startNode {}, 0⟩ :: phrases, groups, names, ?_,
        List.forall_mem_cons.2 ⟨Nat.zero_le 2, hheights⟩,
        (readChoice_start rfl).trans htail⟩
      rw [List.map_cons, hnodes]
      rfl
  obtain ⟨phrases, groups, names, hnodes, hheights, hcase⟩ := hcase
  have hheight : (Phrase.concat (phrases.map some)).height ≤ maxHeight := by
    refine (Phrase.height_concat_le (n := 2) fun a ha => ?_).trans (by decide)
    obtain ⟨_, hmem, h⟩ := List.mem_map.1 ha
    cases h
    exact hheights a hmem
  unfold Node.read?
  rw [String.toList_append, htext]
  dsimp only
  rw [hcase]
  simp [hheight, Phrase.node_concat_some, hnodes]

/-- The template of a layout. -/
def described (anchored : Bool) (layout : List Piece) : Template where
  name := String.join (layout.map Piece.label)
  pattern := ⟨anchor anchored ++ String.join (layout.map Piece.pattern),
    root anchored layout⟩
  kind := .fields
  source := some (spelling anchored layout)

/-- A pattern comes apart into the pieces that it was put together from. -/
theorem pieces_spelling {layout : List Piece} (hplain : IsPlain layout)
    (hletters : ∀ letter ∈ layout.filterMap Piece.letter?, letter ∈ letters)
    (pattern : String) :
    pieces pattern (layout.flatMap Piece.spelling) = .ok layout := by
  induction layout with
  | nil => rfl
  | cons piece layout ih =>
      have hmore : IsPlain layout := fun c hc =>
        hplain c (List.mem_cons_of_mem piece hc)
      rw [List.flatMap_cons]
      cases piece with
      | text c =>
          have hc : c ≠ '%' := fun h =>
            hplain c List.mem_cons_self (h ▸ List.mem_cons_self)
          rw [Piece.spelling, List.singleton_append]
          rw [pieces]
          · rw [ih hmore hletters]
            rfl
          all_goals simp [hc]
      | field letter =>
          have hletter : letter ∈ letters :=
            hletters letter List.mem_cons_self
          have hknown : (fieldPattern? letter).isSome = true := by
            rcases mem_letters.1 hletter with rfl | rfl | rfl | rfl | rfl | rfl
            all_goals rfl
          rw [Piece.spelling, List.cons_append, List.singleton_append, pieces,
            if_pos hknown,
            ih hmore fun other h => hletters other (List.mem_cons_of_mem _ h)]
          rfl

/-- A layout does not begin with a circumflex: that would tie it to the
start of the line. -/
theorem spelling_ne_start {layout : List Piece} (hplain : IsPlain layout)
    (rest : List Char) : layout.flatMap Piece.spelling ≠ '^' :: rest := by
  intro h
  cases layout with
  | nil => cases h
  | cons piece layout =>
      cases piece with
      | text c =>
          injection h with h
          exact hplain c List.mem_cons_self (h ▸ by decide)
      | field letter =>
          injection h with h
          exact absurd h (by decide)

section Weight

variable {layout : List Piece} (anchored : Bool) (hlayout : IsLayout layout)
  (hplain : IsPlain layout)
  (hweight : (root anchored layout).weight ≤ maxWeight)
include hlayout hplain hweight

theorem make_described :
    Template.make (String.join (layout.map Piece.label))
        (anchor anchored ++ String.join (layout.map Piece.pattern)) .fields
      = .ok { described anchored layout with source := none } := by
  have hread : Pattern.read? false
      (anchor anchored ++ String.join (layout.map Piece.pattern))
        = some (described anchored layout).pattern := by
    unfold Pattern.read?
    show (Node.read? {} _).bind _ = _
    rw [read?_layout anchored hlayout hplain, Option.bind_some]
    simp [described, hweight, guard]
  unfold Template.make
  rw [hread]
  rfl

/-- A user's pattern is read to the template of its layout, unless it is
too heavy. -/
theorem ofFields_spelling :
    Template.ofFields (spelling anchored layout)
      = .ok (described anchored layout) := by
  have hletters : ∀ letter ∈ layout.filterMap Piece.letter?,
      letter ∈ letters := fun letter h => hlayout.mem_iff.1 h
  have hkind : layout.contains (.field 's') = false := by
    rw [List.contains_eq_mem, decide_eq_false_iff_not]
    intro hmem
    exact absurd (hletters 's' (List.mem_filterMap.2 ⟨_, hmem, rfl⟩))
      (by decide)
  have hrest : (do
      let parts ← pieces (spelling anchored layout)
        (layout.flatMap Piece.spelling)
      let t ← Template.make (String.join (parts.map Piece.label))
        (anchor anchored ++ String.join (parts.map Piece.pattern))
        (if parts.contains (.field 's') then .epoch else .fields)
      return { t with source := some (spelling anchored layout) })
        = Except.ok (described anchored layout) := by
    rw [pieces_spelling hplain hletters]
    show (Template.make _ _ (if layout.contains (.field 's') then _ else _)
      >>= _) = _
    rw [hkind, if_neg Bool.false_ne_true,
      make_described anchored hlayout hplain hweight]
    rfl
  have htext : (spelling anchored layout).toList
      = (if anchored then ['^'] else []) ++ layout.flatMap Piece.spelling :=
    String.toList_ofList
  unfold Template.ofFields
  rw [htext]
  cases anchored
  · rw [if_neg Bool.false_ne_true, List.nil_append]
    split
    case h_1 front body heq =>
      split at heq
      case h_1 rest h => exact absurd h (spelling_ne_start hplain rest)
      case h_2 =>
        injection heq with hfront hbody
        subst hfront hbody
        exact hrest
  · exact hrest

end Weight

end Gatewatch.Date
