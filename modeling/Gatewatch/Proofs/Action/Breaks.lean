/-
Line breaks in commands, and the values of events.

# The cut

With its static tags replaced a template is literals with tags of the
event between them (`Cut`). The command is these filled with the values
of the event (`Cut.fill`), and after that every break mark is turned into
a line break, in what was filled in too.

# Where a mark may begin

A literal that a tag follows does not end in the midst of a mark: the
bracket of the mark would have been that of a tag with a longer name
(`closed_cut`). So a mark that is not a literal's own begins in a value,
and the command is as if only the literals had been looked at for marks
exactly when no value begins one (`breaks_stay_in_literals_iff`). A value
need not hold a mark to begin one: what stands behind it may end it.
-/
import Gatewatch.Proofs.Action.Expansion
import Gatewatch.Proofs.Text.Replace

namespace Gatewatch.Action

open Text (Begins EndsWithin countIn replaceChars)

-- ============================================================= events

/-- The tags that an event has values for. -/
def eventTags : List String := ["ip", "time", "failures", "matches"]

theorem isSome_eventValue? (e : Ban.Event) (name : String) :
    (eventValue? e name).isSome = true ↔ name ∈ eventTags := by
  unfold eventValue? Ban.Event.get?
  rw [Option.isSome_map]
  split <;> simp_all [eventTags]

/-- The characters that an event puts in place of a tag. -/
def eventText (e : Ban.Event) (name : String) : List Char :=
  ((eventValue? e name).getD "").toList

-- ================================================================ cuts

/-- A text cut at the tags of an event: a literal, and perhaps a tag and
the rest. -/
inductive Cut where
  | last (literal : List Char)
  | tag (literal : List Char) (name : String) (rest : Cut)

namespace Cut

/-- The same cut with characters before its first literal. -/
def prepend (cs : List Char) : Cut → Cut
  | last literal => last (cs ++ literal)
  | tag literal name rest => tag (cs ++ literal) name rest

/-- The literals, each changed in some way, with values in place of the
tags. -/
def fill (f : List Char → List Char) (value : String → List Char) :
    Cut → List Char
  | last literal => f literal
  | tag literal name rest =>
    f literal ++ (value name ++ rest.fill f value)

/-- The cut of some pieces. -/
def ofPieces : List Piece → Cut
  | [] => last []
  | .char c :: rest => (ofPieces rest).prepend [c]
  | .tag name :: rest =>
    if name ∈ eventTags then tag [] name (ofPieces rest)
    else (ofPieces rest).prepend (Piece.tag name).text

variable {value : String → List Char}

theorem fill_prepend (cs : List Char) (k : Cut) :
    (k.prepend cs).fill id value = cs ++ k.fill id value := by
  cases k with
  | last literal => rfl
  | tag literal name rest => exact List.append_assoc ..

/-- What a cut is filled with stands for the tags of the event. -/
theorem fill_ofPieces (ps : List Piece) :
    (ofPieces ps).fill id value = ps.flatMap fun p => match p with
      | .char c => [c]
      | .tag name =>
        if name ∈ eventTags then value name else (Piece.tag name).text := by
  induction ps with
  | nil => rfl
  | cons p rest ih =>
      rw [List.flatMap_cons, ← ih]
      cases p with
      | char c => exact fill_prepend [c] _
      | tag name =>
          dsimp only
          by_cases hname : name ∈ eventTags
          · rw [ofPieces, if_pos hname, if_pos hname]
            rfl
          · rw [ofPieces, if_neg hname, if_neg hname, fill_prepend]

/-- The tags themselves spell the text. -/
theorem fill_text (cs : List Char) :
    (ofPieces (pieces cs)).fill id (fun name => (Piece.tag name).text)
      = cs := by
  rw [fill_ofPieces]
  conv_rhs => rw [← text_pieces cs]
  refine List.flatMap_congr fun p _ => ?_
  cases p with
  | char c => rfl
  | tag name => exact ite_self _

/-- A literal that a tag follows does not end in the midst of a mark. -/
def Closed (mark : List Char) : Cut → Prop
  | last _ => True
  | tag literal _ rest => ¬ EndsWithin mark literal ∧ rest.Closed mark

/-- No mark begins in a value. -/
def Clean (mark : List Char) (value : String → List Char) : Cut → Prop
  | last _ => True
  | tag _ name rest =>
    ¬ Begins mark (value name) (rest.fill id value)
      ∧ rest.Clean mark value

/-- The number of marks within the literals. -/
def marks (mark : List Char) : Cut → Nat
  | last literal => countIn mark literal []
  | tag literal _ rest => countIn mark literal [] + rest.marks mark

variable {mark put : List Char} {k : Cut}

/-- Where no mark begins in a value, those of the literals are
replaced. -/
theorem replaceChars_fill (hclosed : k.Closed mark)
    (hclean : k.Clean mark value) :
    replaceChars mark put (k.fill id value)
      = k.fill (replaceChars mark put) value := by
  induction k with
  | last literal => rfl
  | tag literal name rest ih =>
      have hrest := ih hclosed.2 hclean.2
      rw [fill, fill, id_eq,
        Text.replaceChars_append_of_not_endsWithin hclosed.1,
        Text.replaceChars_append_of_not_begins hclean.1, hrest]

/-- Of the marks in what is filled in some are those of the literals, and
if these are all then none begins in a value. -/
theorem marks_le (k : Cut) :
    k.marks mark ≤ countIn mark (k.fill id value) []
      ∧ (countIn mark (k.fill id value) [] = k.marks mark →
        k.Clean mark value) := by
  induction k with
  | last literal => exact ⟨Nat.le_refl _, fun _ => trivial⟩
  | tag literal name rest ih =>
      obtain ⟨hle, hclean⟩ := ih
      have hliteral := Text.countIn_le mark literal
        (value name ++ rest.fill id value)
      have hcount : countIn mark ((tag literal name rest).fill id value) []
          = countIn mark literal (value name ++ rest.fill id value)
            + (countIn mark (value name) (rest.fill id value)
              + countIn mark (rest.fill id value) []) := by
        show countIn mark (literal ++ (value name ++ rest.fill id value)) []
          = _
        rw [Text.countIn_append, Text.countIn_append, List.append_nil,
          List.append_nil]
      rw [hcount]
      unfold marks
      refine ⟨by omega, fun heq => ⟨fun hbegins => ?_, hclean (by omega)⟩⟩
      have := Text.countIn_pos_of_begins hbegins
      omega

/-- Each mark of the literals changes the length by as much. -/
theorem length_fill {c : Char} {tail : List Char} (hc : c ∉ tail)
    (put : List Char) (value : String → List Char) (k : Cut) :
    (k.fill (replaceChars (c :: tail) put) value).length
        + (tail.length + 1) * k.marks (c :: tail)
      = (k.fill id value).length + put.length * k.marks (c :: tail) := by
  induction k with
  | last literal => exact Text.length_replaceChars hc put literal
  | tag literal name rest ih =>
      have hliteral := Text.length_replaceChars hc put literal
      unfold fill marks
      simp only [List.length_append, Nat.mul_add, id]
      omega

/-- Looking for marks in what is filled in is looking for them in the
literals exactly when no mark begins in a value; a mark here is longer
than what replaces it, and begins with a character of its own. -/
theorem replaceChars_fill_iff {c : Char} {tail : List Char}
    (hc : c ∉ tail) (hput : put.length < tail.length + 1)
    (hclosed : k.Closed (c :: tail)) :
    replaceChars (c :: tail) put (k.fill id value)
        = k.fill (replaceChars (c :: tail) put) value
      ↔ k.Clean (c :: tail) value := by
  refine ⟨fun heq => k.marks_le.2 ?_, replaceChars_fill hclosed⟩
  have hall := Text.length_replaceChars hc put (k.fill id value)
  have hliterals := length_fill hc put value k
  obtain ⟨less, hless⟩ := Nat.exists_eq_add_of_lt hput
  rw [heq, hless, Nat.add_assoc, Nat.add_mul] at hall
  rw [hless, Nat.add_assoc, Nat.add_mul] at hliterals
  refine Nat.eq_of_mul_eq_mul_left (Nat.succ_pos less) ?_
  rw [Nat.succ_eq_add_one]
  omega

/-- Characters before a cut leave it closed if its first literal does not
come to end in the midst of a mark by them. -/
theorem Closed.prepend (h : k.Closed mark) (cs : List Char)
    (hfirst : ∀ literal name rest, k = tag literal name rest →
      ¬ ∃ s q, s ≠ [] ∧ q ≠ [] ∧ s <:+ cs ∧ mark = s ++ literal ++ q) :
    (k.prepend cs).Closed mark := by
  cases k with
  | last literal => trivial
  | tag literal name rest =>
      refine ⟨fun hends => ?_, h.2⟩
      rcases hends.of_append with hlast | hmidst
      · exact h.1 hlast
      · exact hfirst literal name rest rfl hmidst

/-- Characters before a cut change its first literal alone. -/
theorem of_prepend_eq_tag {cs literal : List Char} {name : String}
    {rest : Cut} (h : k.prepend cs = tag literal name rest) :
    ∃ literal', k = tag literal' name rest := by
  cases k with
  | last _ => cases h
  | tag literal' name' rest' =>
      cases h
      exact ⟨literal', rfl⟩

/-- The tags of a cut are those of an event. -/
theorem name_mem_eventTags {ps : List Piece} {literal : List Char}
    {name : String} {rest : Cut}
    (h : ofPieces ps = tag literal name rest) : name ∈ eventTags := by
  induction ps generalizing literal with
  | nil => cases h
  | cons p ps ih =>
      cases p with
      | char c =>
          obtain ⟨_, hk⟩ := of_prepend_eq_tag h
          exact ih hk
      | tag found =>
          rw [ofPieces] at h
          split at h
          case isTrue hfound =>
            cases h
            exact hfound
          case isFalse =>
            obtain ⟨_, hk⟩ := of_prepend_eq_tag h
            exact ih hk

end Cut

-- ============================================================== breaks

/-- The characters of the break mark. -/
def breakChars : List Char := ['<', 'b', 'r', '>']

/-- The characters before the closing bracket of a break mark might be
those of a tag. -/
theorem isTagChar_of_midst {p q : List Char} (hq : q ≠ [])
    (h : breakChars = p ++ q) : ∀ c ∈ p, isTagChar c = true := by
  have hfront : p <+: breakChars.dropLast := by
    rw [h, List.dropLast_append_of_ne_nil hq]
    exact List.prefix_append ..
  have hall : breakChars.dropLast.all isTagChar = true := by decide
  exact fun c hc => List.all_eq_true.1 hall c (hfront.subset hc)

theorem isTagChar_of_mem_eventTags {name : String}
    (h : name ∈ eventTags) : ∀ c ∈ name.toList, isTagChar c = true := by
  have hall : (eventTags.all fun name => name.toList.all isTagChar)
      = true := by decide
  exact List.all_eq_true.1 (List.all_eq_true.1 hall name h)

/-- A literal that a tag of an event follows does not end in the midst of
a break mark. -/
theorem closed_cut (cs : List Char) :
    (Cut.ofPieces (pieces cs)).Closed breakChars := by
  fun_induction pieces cs with
  | case1 => trivial
  | case2 cs name rest hread ih =>
      rw [Cut.ofPieces]
      split
      case isTrue => exact ⟨Text.not_endsWithin_nil, ih⟩
      case isFalse =>
        refine ih.prepend _ ?_
        -- a tag ends with a closing bracket
        rintro literal _ _ - ⟨s, q, hs, hq, hsuffix, hmark⟩
        have hlast : s.getLast hs = '>' := by
          rw [hsuffix.getLast hs]
          simp [Piece.text]
        have hclose := isTagChar_of_midst hq hmark (s.getLast hs)
          (List.mem_append_left _ (List.getLast_mem hs))
        rw [hlast] at hclose
        exact absurd hclose (by decide)
  | case3 cs hread ih =>
      refine ih.prepend _ ?_
      rintro literal name rest hcut ⟨s, q, hs, hq, hsuffix, hmark⟩
      -- the bracket would be that of a tag with a longer name
      have hliteral := isTagChar_of_midst hq hmark
      have hname :=
        isTagChar_of_mem_eventTags (Cut.name_mem_eventTags hcut)
      have hchars : ∀ c ∈ literal ++ '<' :: name.toList,
          isTagChar c = true := by
        intro c hc
        rcases List.mem_append.1 hc with hc | hc
        · exact hliteral c (List.mem_append_right _ hc)
        · rcases List.mem_cons.1 hc with rfl | hc
          · decide
          · exact hname c hc
      have htext := Cut.fill_text cs
      rw [hcut] at htext
      have htag : readTag cs = some
          (String.ofList (literal ++ '<' :: name.toList),
            rest.fill id fun name => (Piece.tag name).text) := by
        refine readTag_eq_some.2 ⟨by simp, ?_, ?_⟩
        · rw [String.toList_ofList]
          exact hchars
        · rw [← htext, String.toList_ofList]
          simp [Cut.fill, Piece.text]
      rw [hread] at htag
      cases htag
  | case4 c cs hc ih =>
      refine ih.prepend _ ?_
      rintro literal _ _ - ⟨s, q, hs, hq, hsuffix, hmark⟩
      obtain rfl : s = [c] :=
        (List.suffix_cons_iff.1 hsuffix).resolve_right fun hnil =>
          hs (List.suffix_nil.1 hnil)
      exact hc (List.cons.inj hmark).1.symm

/-- A text with line breaks in place of its break marks. -/
def breakLines : List Char → List Char := replaceChars breakChars ['\n']

/-- Putting in the values of an event is filling the cut of a text. -/
theorem replaceTags_eventValue? (e : Ban.Event) (text : String) :
    replaceTags (eventValue? e) text
      = String.ofList
          ((Cut.ofPieces (pieces text.toList)).fill id (eventText e)) := by
  unfold replaceTags
  rw [Cut.fill_ofPieces]
  refine congrArg _ (List.flatMap_congr fun p _ => ?_)
  cases p with
  | char c => rfl
  | tag name =>
      have hsome := isSome_eventValue? e name
      have hbind : (Piece.tag name).name?.bind (eventValue? e)
          = eventValue? e name := rfl
      unfold eventText
      rw [hbind]
      cases hvalue : eventValue? e name with
      | some value => simp_all
      | none => simp_all

/-- Whatever the template, the static tags (as long as none leads back to
itself) and the event: let the template with its static tags replaced be
cut at the tags of the event. The command is the cut filled with the
values, with a line break in place of every mark. It is the literals with
line breaks in place of their own marks and the values as they are
exactly when no mark begins in a value. -/
theorem breaks_stay_in_literals_iff (template : String) {tags : TagMap}
    (hacyclic : tags.Acyclic) (e : Ban.Event) :
    ∃ values, tags.resolve = .ok values
      ∧ let text := replaceTags values.get? template
        let cut := Cut.ofPieces (pieces text.toList)
        cut.fill id (fun name => (Piece.tag name).text) = text.toList
          ∧ substitute template tags (some e)
            = .ok (String.ofList (breakLines (cut.fill id (eventText e))))
          ∧ (substitute template tags (some e)
              = .ok (String.ofList (cut.fill breakLines (eventText e)))
            ↔ cut.Clean breakChars (eventText e)) := by
  obtain ⟨values, hvalues⟩ := TagMap.resolve_of_acyclic hacyclic
  refine ⟨values, hvalues, ?_⟩
  intro text cut
  have hcommand : substitute template tags (some e)
      = .ok (String.ofList (breakLines (cut.fill id (eventText e)))) := by
    have hmark : breakMark.toList = breakChars := by decide
    unfold substitute
    rw [hvalues]
    show Except.ok (Text.replaceAll
      (replaceTags (eventValue? e) text) breakMark "\n") = _
    rw [replaceTags_eventValue?, Text.replaceAll, hmark,
      String.toList_ofList, String.toList_ofList]
    rfl
  refine ⟨Cut.fill_text _, hcommand, ?_⟩
  rw [hcommand, Except.ok.injEq, String.ofList_inj]
  exact Cut.replaceChars_fill_iff (by decide) (by decide) (closed_cut _)

/-- A ban of a source whose line was an opening bracket. -/
def bracketEvent : Ban.Event where
  ip := "1.2.3.4"
  time := 0
  failures := 1
  lines := "<"

/-- A rule that is written once for all templates. -/
def ruleTags : TagMap := [("rule", "-s <ip>")]

theorem ruleTags_acyclic : ruleTags.Acyclic := by
  intro name hcycle
  obtain ⟨_, -, hmem, value, hvalue, hinner⟩ :=
    Relation.TransGen.tail'_iff.1 hcycle
  have hname : name = "rule" := List.mem_singleton.1 hmem
  have hrule : value = "-s <ip>" := by
    unfold TagMap.get? ruleTags at hvalue
    rw [List.find?_singleton] at hvalue
    split at hvalue
    case isTrue => exact (Option.some.inj hvalue).symm
    case isFalse => cases hvalue
  rw [hname, hrule] at hinner
  exact absurd hinner (by decide +kernel)

/-- The template's own mark becomes a line break. -/
theorem rule_with_note_breaks_once :
    ruleTags.Acyclic ∧ ∃ values, ruleTags.resolve = .ok values
      ∧ let text := replaceTags values.get? "<rule><br># <matches>"
        let cut := Cut.ofPieces (pieces text.toList)
        cut.fill id (fun name => (Piece.tag name).text) = text.toList
          ∧ substitute "<rule><br># <matches>" ruleTags (some bracketEvent)
            = .ok (String.ofList
                (breakLines (cut.fill id (eventText bracketEvent))))
          ∧ (substitute "<rule><br># <matches>" ruleTags (some bracketEvent)
              = .ok (String.ofList
                  (cut.fill breakLines (eventText bracketEvent)))
            ↔ cut.Clean breakChars (eventText bracketEvent)) :=
  ⟨ruleTags_acyclic, breaks_stay_in_literals_iff "<rule><br># <matches>"
    ruleTags_acyclic bracketEvent⟩

/-- Of a mark that a line begins and the template ends the one half is
escaped, and still the whole becomes a line break. -/
theorem begun_mark_becomes_break :
    TagMap.resolve [] = .ok []
      ∧ replaceTags (TagMap.get? []) "<matches>br>" = "<matches>br>"
      ∧ substitute "<matches>br>" [] (some bracketEvent) = .ok "\\\n"
      ∧ String.ofList ((Cut.ofPieces (pieces "<matches>br>".toList)).fill
          breakLines (eventText bracketEvent)) = "\\<br>"
      ∧ "\\\n" ≠ "\\<br>" := by
  decide +kernel

end Gatewatch.Action
