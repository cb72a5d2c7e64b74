/-
Whether expanded values are expanded for good.

# What replacing may join

A text that stands before another one may begin a tag that the other one
ends, and then there is a tag that neither of the two holds. Within the
value of a tag this does not happen where its own tags were replaced:
behind a bracket that opens no tag, something stops the name before the
next tag (`readTag_fill`). So a tag that is in a text after its tags were
replaced was in one of the values, or it was begun by a value and is
ended by the text behind it (`mem_tagsIn_or_joins`).

# Values that are expanded

The values of a map are expanded from the tags without references on. As
long as none of them begins a tag of the map that is ended so, they hold
no tags of the map at all, and expanding them once more changes nothing.
A tag that is joined is there, so this is also the only way
(`expanded_for_good_iff`).

Nothing is joined if no value begins a tag to begin with: the texts that
expanded values are made of begin none, and so none of the values does
(`expanded_for_good_of_closed`).
-/
import Gatewatch.Proofs.Action.Expansion
import Gatewatch.Proofs.Action.Seams

namespace Gatewatch.Action

-- ============================================================== filling

variable {value? : String → Option String}

/-- What is left of some pieces is the pieces of what is left. -/
theorem pieces_eq_append {cs : List Char} {pre post : List Piece}
    (h : pieces cs = pre ++ post) : ∃ rest, pieces rest = post := by
  fun_induction pieces cs generalizing pre with
  | case1 =>
      obtain ⟨-, rfl⟩ := List.append_eq_nil_iff.1 h.symm
      exact ⟨[], by rw [pieces]⟩
  | case2 cs name rest hread ih =>
      rcases List.cons_eq_append_iff.1 h with ⟨-, rfl⟩ | ⟨pre, -, h⟩
      · exact ⟨'<' :: cs, pieces_tag hread⟩
      · exact ih h
  | case3 cs hread ih =>
      rcases List.cons_eq_append_iff.1 h with ⟨-, rfl⟩ | ⟨pre, -, h⟩
      · exact ⟨'<' :: cs, pieces_bracket hread⟩
      · exact ih h
  | case4 c cs hc ih =>
      rcases List.cons_eq_append_iff.1 h with ⟨-, rfl⟩ | ⟨pre, -, h⟩
      · exact ⟨c :: cs, pieces_char hc cs⟩
      · exact ih h

/-- Characters are filled with themselves. -/
theorem flatMap_fill_map_char (cs : List Char) :
    (cs.map Piece.char).flatMap (Piece.fill value?) = cs := by
  induction cs with
  | nil => rfl
  | cons c rest ih =>
      rw [List.map_cons, List.flatMap_cons, ih]
      rfl

/-- What a character is filled with is one character. -/
theorem fill_char_eq {c d : Char} {left right : List Char}
    (h : (Piece.char c).fill value? = left ++ d :: right) :
    c = d ∧ left = [] ∧ right = [] := by
  rcases List.cons_eq_append_iff.1 h with ⟨hleft, hcons⟩ | ⟨_, -, hnil⟩
  · obtain ⟨hd, hright⟩ := List.cons_eq_cons.1 hcons
    exact ⟨hd.symm, hleft, hright⟩
  · exact absurd hnil (by simp)

/-- Where a text opens no tag, all of it could be the name of one, or what
stops the name stands before its first tag. -/
theorem pieces_of_readTag_none {cs : List Char} (h : readTag cs = none) :
    (pieces cs = cs.map .char ∧ ∀ c ∈ cs, isTagChar c = true)
      ∨ ∃ run stop rest, cs = run ++ stop :: rest
        ∧ (∀ c ∈ run, isTagChar c = true) ∧ isTagChar stop = false
        ∧ pieces cs = run.map .char ++ .char stop :: pieces rest := by
  obtain hrun | ⟨run, stop, rest, rfl, hrun, hstop⟩ := run_or_stop cs
  · left
    have hpieces := pieces_run hrun (.inl rfl)
    rw [List.append_nil, pieces, List.append_nil] at hpieces
    exact ⟨hpieces, hrun⟩
  · right
    refine ⟨run, stop, rest, rfl, hrun, hstop, ?_⟩
    have hne : stop ≠ '<' := by
      rintro rfl
      cases hstop
    rw [← pieces_char hne]
    rw [readTag_stop hrun hstop] at h
    split at h
    case isTrue => cases h
    case isFalse hcond =>
      by_cases hblank : stop = ' '
      · exact pieces_run hrun (.inr ⟨rest, by rw [hblank]⟩)
      · have hclose : stop = '>' := by
          simpa [isTagChar, hblank] using hstop
        have hempty : run = [] := by
          by_contra hrun
          exact hcond ⟨hclose, hrun⟩
        rw [hempty]
        rfl

/-- Where a text opens no tag, it opens none after its own tags are
replaced. -/
theorem readTag_fill {cs : List Char} (h : readTag cs = none) :
    readTag ((pieces cs).flatMap (Piece.fill value?)) = none := by
  obtain ⟨hpieces, hrun⟩ | ⟨run, stop, rest, rfl, hrun, hstop, hpieces⟩ :=
    pieces_of_readTag_none h
  · rw [hpieces, flatMap_fill_map_char]
    exact readTag_run hrun
  · rw [hpieces, List.flatMap_append, flatMap_fill_map_char,
      List.flatMap_cons]
    show readTag (run ++ stop :: _) = none
    rw [readTag_stop hrun hstop] at h ⊢
    split at h
    case isTrue => cases h
    case isFalse hcond => rw [if_neg hcond]

/-- A character of what pieces are filled with comes from one of them. -/
theorem exists_piece_of_split {f : Piece → List Char} {ps : List Piece}
    {before after : List Char} {c : Char}
    (h : ps.flatMap f = before ++ c :: after) :
    ∃ pre p post left right, ps = pre ++ p :: post
      ∧ before = pre.flatMap f ++ left ∧ f p = left ++ c :: right
      ∧ after = right ++ post.flatMap f := by
  induction ps generalizing before with
  | nil => cases before <;> cases h
  | cons p rest ih =>
      rw [List.flatMap_cons] at h
      rcases List.append_eq_append_iff.1 h with
        ⟨left, rfl, hrest⟩ | ⟨right, hp, hright⟩
      · obtain ⟨pre, q, post, left, right, rfl, rfl, hq, rfl⟩ := ih hrest
        exact ⟨p :: pre, q, post, left, right, rfl,
          by rw [List.flatMap_cons, List.append_assoc], hq, rfl⟩
      · cases right with
        | nil =>
            obtain ⟨pre, q, post, left, right, rfl, hnil, hq, rfl⟩ :=
              ih (show rest.flatMap f = [] ++ c :: after from hright.symm)
            refine ⟨p :: pre, q, post, left, right, rfl, ?_, hq, rfl⟩
            rw [List.flatMap_cons, hp, List.append_nil, List.append_assoc,
              ← hnil, List.append_nil]
        | cons d right =>
            obtain ⟨rfl, rfl⟩ := List.cons_eq_cons.1 hright
            exact ⟨[], p, rest, before, right, rfl, rfl, hp, rfl⟩

/-- Where the tags of a text are replaced, a value begins the tag of this
name, and what comes behind the value ends it. -/
def Joins (value? : String → Option String) (text inner : String) : Prop :=
  ∃ pre name post begun rest,
    pieces text.toList = pre ++ .tag name :: post
      ∧ (value? name).isSome = true
      ∧ begun? ((pre ++ [.tag name]).flatMap (Piece.fill value?)) = some begun
      ∧ readTag (begun ++ post.flatMap (Piece.fill value?))
        = some (inner, rest)

/-- A tag that is joined is in the text. -/
theorem Joins.mem_tagsIn {text inner : String} (h : Joins value? text inner) :
    inner ∈ tagsIn (replaceTags value? text) := by
  obtain ⟨pre, name, post, begun, rest, hpieces, -, hbegun, hread⟩ := h
  obtain ⟨before, hcs, hbefore, -⟩ := begun?_eq_some.1 hbegun
  rw [mem_tagsIn_iff, toList_replaceTags, hpieces, List.append_cons, List.flatMap_append,
    hcs, List.append_assoc, (pieces_append hbefore _).1, List.cons_append,
    pieces_tag hread]
  exact List.mem_append_right _ (List.mem_cons_self ..)

/-- Behind a bracket that opens no tag in a text there is no tag's end. -/
theorem exists_behind_bracket {text : List Char} {pre post : List Piece}
    (h : pieces text = pre ++ .char '<' :: post) :
    ∃ cs, pieces cs = post ∧ readTag cs = none := by
  obtain ⟨rest, hrest⟩ := pieces_eq_append h
  cases rest with
  | nil => rw [pieces] at hrest; cases hrest
  | cons c cs =>
      by_cases hc : c = '<'
      · subst hc
        cases hread : readTag cs with
        | some tag =>
            rw [pieces_tag hread] at hrest
            injection hrest with hrest
            cases hrest
        | none =>
            rw [pieces_bracket hread] at hrest
            injection hrest with _ hpost
            exact ⟨cs, hpost, hread⟩
      · rw [pieces_char hc] at hrest
        injection hrest with hchar
        exact absurd (Piece.char.inj hchar) hc

/-- A bracket that opens no tag in a text opens none in what its pieces
are filled with. -/
theorem readTag_of_bracket {text : List Char} {pre post : List Piece}
    (h : pieces text = pre ++ .char '<' :: post) :
    readTag (post.flatMap (Piece.fill value?)) = none := by
  obtain ⟨cs, hcs, hread⟩ := exists_behind_bracket h
  rw [← hcs]
  exact readTag_fill hread

/-- A bracket within a tag, where nothing is begun before it, is the one
that opens the tag. -/
theorem eq_nil_of_bracket {name : String}
    (hname : ∀ c ∈ name.toList, isTagChar c = true)
    {before left right : List Char} (hbegun : begun? (before ++ left) = none)
    (h : (Piece.tag name).text = left ++ '<' :: right) : left = [] := by
  cases left with
  | nil => rfl
  | cons c left =>
      obtain ⟨rfl, hrest⟩ := List.cons_eq_cons.1 h
      have hrun : ∀ c ∈ left, isTagChar c = true := by
        rcases List.append_eq_append_iff.1 hrest with
          ⟨more, -, hclose⟩ | ⟨more, hleft, -⟩
        · rcases List.cons_eq_append_iff.1 hclose with ⟨-, h⟩ | ⟨_, -, h⟩
          · cases h
          · exact absurd h (by simp)
        · exact fun c hc => hname c (hleft ▸ List.mem_append_left more hc)
      exact absurd hbegun (begun?_ne_none before hrun)

/-- A name and its end stand at the front of a text whole, or as far as the
text goes there is nothing but the name. -/
theorem whole_or_run {name after right rest : List Char}
    (hname : ∀ c ∈ name, isTagChar c = true)
    (h : name ++ '>' :: after = right ++ rest) :
    (∃ more, right = name ++ '>' :: more)
      ∨ ∀ c ∈ right, isTagChar c = true := by
  rcases List.append_eq_append_iff.1 h with
    ⟨more, hright, hclose⟩ | ⟨more, hright, -⟩
  · cases more with
    | nil =>
        rw [hright, List.append_nil]
        exact .inr hname
    | cons d more =>
        obtain ⟨rfl, -⟩ := List.cons_eq_cons.1 hclose
        exact .inl ⟨more, hright⟩
  · exact .inr fun c hc => hname c (hright ▸ List.mem_append_left more hc)

/-- A tag without a value is left as it was written: where the bracket of
a tag stands in it, it is that tag. -/
theorem eq_of_left_over {text : String} {pre post : List Piece}
    {name inner : String} {left right after : List Char}
    (hpieces : pieces text.toList = pre ++ .tag name :: post)
    (hnone : value? name = none)
    (hbefore : begun? (pre.flatMap (Piece.fill value?) ++ left) = none)
    (hfill : (Piece.tag name).fill value? = left ++ '<' :: right)
    (hread : readTag (right ++ post.flatMap (Piece.fill value?))
      = some (inner, after)) : name = inner := by
  have hmem : .tag name ∈ pieces text.toList := by
    rw [hpieces]
    exact List.mem_append_right _ (List.mem_cons_self ..)
  obtain ⟨-, -, -, -, hname, hchars⟩ := exists_before_tag hmem
  rw [Piece.fill_of_none hnone] at hfill
  obtain rfl := eq_nil_of_bracket hchars hbefore hfill
  have hright : right = name.toList ++ ['>'] :=
    (List.cons_eq_cons.1 hfill).2.symm
  have hother : readTag (right ++ post.flatMap (Piece.fill value?))
      = some (name, post.flatMap (Piece.fill value?)) :=
    readTag_eq_some.2 ⟨hname, hchars, by rw [hright, List.append_assoc]; rfl⟩
  rw [hread] at hother
  exact (Prod.mk.inj (Option.some.inj hother)).1.symm

/-- A tag that has a value and is in a text after its tags were replaced
is in one of the values, or it is joined. -/
theorem mem_tagsIn_or_joins {text inner : String}
    (hinner : (value? inner).isSome = true)
    (h : inner ∈ tagsIn (replaceTags value? text)) :
    (∃ name ∈ tagsIn text, ∃ value, value? name = some value
        ∧ inner ∈ tagsIn value)
      ∨ Joins value? text inner := by
  rw [mem_tagsIn_iff, toList_replaceTags] at h
  obtain ⟨before, after, hcs, hbefore, hne, hchars⟩ := exists_before_tag h
  have hsplit : (pieces text.toList).flatMap (Piece.fill value?)
      = before ++ '<' :: (inner.toList ++ '>' :: after) := by
    rw [hcs]
    simp [Piece.text]
  -- the piece in which the bracket of the tag stands
  obtain ⟨pre, p, post, left, right, hpieces, rfl, hfill, hafter⟩ :=
    exists_piece_of_split hsplit
  have hread : readTag (right ++ post.flatMap (Piece.fill value?))
      = some (inner, after) := readTag_eq_some.2 ⟨hne, hchars, hafter.symm⟩
  cases p with
  | char c =>
      obtain ⟨rfl, -, rfl⟩ := fill_char_eq hfill
      rw [List.nil_append, readTag_of_bracket hpieces] at hread
      cases hread
  | tag name =>
      cases hvalue : value? name with
      | none =>
          obtain rfl := eq_of_left_over hpieces hvalue hbefore hfill hread
          rw [hvalue] at hinner
          cases hinner
      | some value =>
          rw [Piece.fill_of_some hvalue] at hfill
          rcases whole_or_run hchars hafter with ⟨rest, hright⟩ | hrun
          · -- the tag ends in the value
            have hname : name ∈ tagsIn text := by
              rw [mem_tagsIn_iff, hpieces]
              exact List.mem_append_right _ (List.mem_cons_self ..)
            refine .inl ⟨name, hname, value, hvalue, mem_tagsIn_iff.2 ?_⟩
            rw [hfill, (pieces_append (begun?_of_append hbefore) _).1,
              pieces_tag (readTag_eq_some.2 ⟨hne, hchars, hright⟩)]
            exact List.mem_append_right _ (List.mem_cons_self ..)
          · -- the tag ends behind the value
            refine .inr ⟨pre, name, post, right, after, hpieces,
              by rw [hvalue]; rfl,
              begun?_eq_some.2 ⟨_, ?_, hbefore, hrun⟩, hread⟩
            rw [List.flatMap_append, List.flatMap_singleton,
              Piece.fill_of_some hvalue, hfill, List.append_assoc]

-- ========================================================= closed values

/-- Where a text opens no tag, pieces at its front that are filled with
characters of a name are characters: the first tag is behind what stops
the name. -/
theorem chars_of_fill {cs : List Char} (hread : readTag cs = none)
    {front post : List Piece} (hpieces : pieces cs = front ++ post)
    (hchars : ∀ c ∈ front.flatMap (Piece.fill value?), isTagChar c = true) :
    ∃ run : List Char, front = run.map .char := by
  obtain ⟨hall, -⟩ | ⟨run, stop, more, -, -, hstop, hall⟩ :=
    pieces_of_readTag_none hread
  · obtain ⟨run, -, -, hrun, -⟩ :=
      List.map_eq_append_iff.1 (hall.symm.trans hpieces)
    exact ⟨run, hrun.symm⟩
  · rcases List.append_eq_append_iff.1 (hpieces.symm.trans hall) with
      ⟨rest, hrest, -⟩ | ⟨rest, hfront, hrest⟩
    · obtain ⟨first, -, -, hfirst, -⟩ := List.map_eq_append_iff.1 hrest
      exact ⟨first, hfirst.symm⟩
    · rcases List.cons_eq_append_iff.1 hrest with ⟨hnil, -⟩ | ⟨rest, hcons, -⟩
      · exact ⟨run, by rw [hfront, hnil, List.append_nil]⟩
      · have hmem : stop ∈ front.flatMap (Piece.fill value?) := by
          rw [hfront, hcons, List.flatMap_append, List.flatMap_cons]
          exact List.mem_append_right _ (List.mem_cons_self ..)
        rw [hchars stop hmem] at hstop
        cases hstop

/-- Where no value begins a tag, a tag is begun among some pieces of a text
only by the text itself. -/
theorem bracket_of_begun? {text : String}
    (hvalues : ∀ name ∈ tagsIn text, ∀ value, value? name = some value →
      begun? value.toList = none)
    {ps post : List Piece} (hpieces : pieces text.toList = ps ++ post)
    (h : begun? (ps.flatMap (Piece.fill value?)) ≠ none) :
    ∃ (pre : List Piece) (run : List Char),
      ps = pre ++ .char '<' :: run.map .char
        ∧ ∀ c ∈ run, isTagChar c = true := by
  obtain ⟨name, hname⟩ := Option.ne_none_iff_exists'.1 h
  obtain ⟨before, hcs, -, hrun⟩ := begun?_eq_some.1 hname
  -- the piece in which the bracket stands
  obtain ⟨pre, p, rest, left, right, rfl, -, hfill, rfl⟩ :=
    exists_piece_of_split hcs
  have hright : ∀ c ∈ right, isTagChar c = true := fun c hc =>
    hrun c (List.mem_append_left _ hc)
  have hrest : ∀ c ∈ rest.flatMap (Piece.fill value?),
      isTagChar c = true := fun c hc => hrun c (List.mem_append_right _ hc)
  cases p with
  | char c =>
      obtain ⟨rfl, -, rfl⟩ := fill_char_eq hfill
      rw [List.append_assoc, List.cons_append] at hpieces
      obtain ⟨cs, hbehind, hread⟩ := exists_behind_bracket hpieces
      obtain ⟨run, rfl⟩ := chars_of_fill hread hbehind hrest
      rw [flatMap_fill_map_char] at hrest
      exact ⟨pre, run, rfl, hrest⟩
  | tag name =>
      cases hvalue : value? name with
      | none =>
          -- the tag is left as it was written, and ends with a stop
          rw [Piece.fill_of_none hvalue] at hfill
          have hclose : '>' ∈ right := by
            rcases List.eq_nil_or_concat' right with rfl | ⟨more, d, rfl⟩
            · have hend := (List.append_inj' hfill rfl).2
              cases hend
            · rw [List.append_cons, ← List.append_assoc] at hfill
              have hend := (List.append_inj' hfill rfl).2
              rw [← List.cons_eq_cons.1 hend |>.1]
              exact List.mem_append_right _ (List.mem_singleton_self _)
          exact absurd (hright '>' hclose) (by decide)
      | some value =>
          have htag : name ∈ tagsIn text := by
            rw [mem_tagsIn_iff, hpieces, List.append_assoc]
            exact List.mem_append_right _ (List.mem_cons_self ..)
          rw [Piece.fill_of_some hvalue] at hfill
          refine absurd (hvalues name htag value hvalue) ?_
          rw [hfill]
          exact begun?_ne_none left hright

/-- Where no value begins a tag, none is joined. -/
theorem not_joins_of_closed {text : String}
    (hvalues : ∀ name ∈ tagsIn text, ∀ value, value? name = some value →
      begun? value.toList = none) (inner : String) :
    ¬ Joins value? text inner := by
  rintro ⟨pre, name, post, begun, rest, hpieces, -, hbegun, -⟩
  rw [List.append_cons] at hpieces
  obtain ⟨front, run, hfront, -⟩ := bracket_of_begun? hvalues hpieces
    (by rw [hbegun]; nofun)
  rcases List.eq_nil_or_concat' run with rfl | ⟨more, d, rfl⟩
  · have hend := (List.append_inj' hfront rfl).2
    cases hend
  · rw [List.map_append, ← List.cons_append, ← List.append_assoc] at hfront
    have hend := (List.append_inj' hfront rfl).2
    cases hend

/-- Where neither a text nor a value begins a tag, the text begins none
after its tags were replaced. -/
theorem begun?_replaceTags {text : String}
    (hvalues : ∀ name ∈ tagsIn text, ∀ value, value? name = some value →
      begun? value.toList = none)
    (htext : begun? text.toList = none) :
    begun? (replaceTags value? text).toList = none := by
  rw [toList_replaceTags]
  by_contra hbegun
  obtain ⟨pre, run, hpieces, hrun⟩ := bracket_of_begun? hvalues
    (List.append_nil _).symm hbegun
  have hcs := text_pieces text.toList
  rw [hpieces, List.flatMap_append, List.flatMap_cons] at hcs
  have hwritten : (run.map Piece.char).flatMap Piece.text = run := by
    rw [List.flatMap_map]
    exact List.flatMap_singleton' run
  rw [hwritten] at hcs
  rw [← hcs] at htext
  exact begun?_ne_none _ hrun htext

-- ===================================================== expanded for good

namespace TagMap

variable {m values : TagMap}

/-- Where no tag of a map is joined from its expanded values, none is in
them. -/
theorem not_mem_names_of_not_joins (h : m.resolve = .ok values)
    (hjoins : ∀ name raw, m.get? name = some raw →
      ∀ inner ∈ m.names, ¬ Joins values.get? raw inner)
    {name text : String} (htext : values.get? name = some text) :
    ∀ inner ∈ tagsIn text, inner ∉ m.names := by
  obtain ⟨hsound, hall⟩ := sound_of_resolve h
  have hcomes := hsound.comes name text htext
  -- on what the text is made of: a tag in it would be in one of those texts
  induction hcomes with
  | @intro name raw textOf hraw hmade ih =>
      intro inner htag hmem
      rw [get?_of_resolve h hraw] at htext
      rw [← Option.some.inj htext] at htag
      obtain ⟨other, hother, value, hget, hinner⟩ | hjoined :=
        mem_tagsIn_or_joins (hall inner hmem) htag
      · have hrefers : m.Refers name other :=
          ⟨(hsound.comes other value hget).mem_names, raw, hraw, hother⟩
        obtain rfl : value = textOf other :=
          (hsound.comes other value hget).unique (hmade other hrefers)
        exact ih other hrefers hget inner hinner hmem
      · exact hjoins name raw hraw inner hmem hjoined

/-- A map whose values hold none of its tags comes to itself. -/
theorem resolve_eq_self (hordered : m.Ordered)
    (h : ∀ name value, m.get? name = some value →
      ∀ inner ∈ tagsIn value, inner ∉ m.names) :
    m.resolve = .ok m := by
  have hacyclic : m.Acyclic := fun name hcycle => by
    obtain ⟨inner, ⟨hmem, value, hvalue, htag⟩, -⟩ :=
      Relation.TransGen.head'_iff.1 hcycle
    exact h name value hvalue inner htag hmem
  obtain ⟨values, hvalues⟩ := resolve_of_acyclic hacyclic
  have hget : ∀ name, values.get? name = m.get? name := fun name => by
    cases hvalue : m.get? name with
    | none =>
        refine get?_eq_none fun hname => ?_
        have hsome := (isSome_get?_iff name).2
          ((names_of_resolve hvalues name).1 hname)
        rw [hvalue] at hsome
        cases hsome
    | some value =>
        rw [get?_of_resolve hvalues hvalue]
        refine congrArg some (replaceTags_eq_self fun inner htag => ?_)
        refine get?_eq_none fun hname => ?_
        exact h name value hvalue inner htag
          ((names_of_resolve hvalues inner).1 hname)
  rw [hvalues, (sound_of_resolve hvalues).1.ordered.ext hordered hget]

/-- Where no tag of a map is joined from its expanded values, they come to
themselves. -/
theorem resolve_values_of_not_joins (h : m.resolve = .ok values)
    (hjoins : ∀ name raw, m.get? name = some raw →
      ∀ inner ∈ m.names, ¬ Joins values.get? raw inner) :
    values.resolve = .ok values := by
  refine resolve_eq_self (sound_of_resolve h).1.ordered
    fun name text htext inner htag hname => ?_
  exact not_mem_names_of_not_joins h hjoins htext inner htag
    ((names_of_resolve h inner).1 hname)

/-- The values that a map comes to hold no tags of the map, and come to
themselves, exactly when none of its tags is joined where the tags of a
value were replaced. -/
theorem expanded_for_good_iff (h : m.resolve = .ok values) :
    ((∀ name text, values.get? name = some text →
        ∀ inner ∈ tagsIn text, inner ∉ m.names)
      ∧ values.resolve = .ok values)
      ↔ ∀ name raw, m.get? name = some raw →
          ∀ inner ∈ m.names, ¬ Joins values.get? raw inner := by
  constructor
  · rintro ⟨hfree, -⟩ name raw hraw inner hmem hjoined
    exact hfree name _ (get?_of_resolve h hraw) inner
      hjoined.mem_tagsIn hmem
  · intro hjoins
    exact ⟨fun _ _ htext => not_mem_names_of_not_joins h hjoins htext,
      resolve_values_of_not_joins h hjoins⟩

/-- The value of the first tag begins the name of the second one, and a
blank stops it: there is nothing left to be expanded. -/
theorem stopped_tag_is_not_joined :
    let m : TagMap := [("a", "<b"), ("b", "x"), ("c", "<a> >")]
    let values : TagMap := [("a", "<b"), ("b", "x"), ("c", "<b >")]
    m.resolve = .ok values ∧ values.resolve = .ok values
      ∧ ∀ name raw, m.get? name = some raw →
        ∀ inner ∈ m.names, ¬ Joins values.get? raw inner := by
  intro m values
  have hvalues : m.resolve = .ok values := by decide +kernel
  have hagain : values.resolve = .ok values := by decide +kernel
  have hfree : ∀ tag ∈ values, ∀ inner ∈ tagsIn tag.2, inner ∉ m.names := by
    decide +kernel
  refine ⟨hvalues, hagain, (expanded_for_good_iff hvalues).1
    ⟨fun name text htext => ?_, hagain⟩⟩
  obtain ⟨tag, htag, rfl⟩ := Option.map_eq_some_iff.1 htext
  exact hfree tag (List.mem_of_find?_eq_some htag)

/-- The closing bracket behind the first tag ends what its value begins:
the expanded value holds a tag of the map, and expanding it once more
gives another one. -/
theorem joined_tag_is_left_over :
    resolve [("a", "<b"), ("b", "x"), ("c", "<a>>")]
        = .ok [("a", "<b"), ("b", "x"), ("c", "<b>")]
      ∧ tagsIn "<b>" = ["b"]
      ∧ resolve [("a", "<b"), ("b", "x"), ("c", "<b>")]
        = .ok [("a", "<b"), ("b", "x"), ("c", "x")] := by
  decide +kernel

/-- Where no value of a map begins a tag, no expanded value does, either. -/
theorem begun?_of_resolve (h : m.resolve = .ok values)
    (hclosed : ∀ name raw, m.get? name = some raw → begun? raw.toList = none)
    {name text : String} (htext : values.get? name = some text) :
    begun? text.toList = none := by
  have hcomes := (sound_of_resolve h).1.comes name text htext
  clear htext
  induction hcomes with
  | @intro name raw textOf hraw _ ih =>
      refine begun?_replaceTags (fun inner htag value hvalue => ?_)
        (hclosed name raw hraw)
      obtain ⟨_, hget, rfl⟩ := Option.map_eq_some_iff.1 hvalue
      exact ih inner ⟨mem_names_of_get? hget, raw, hraw, htag⟩

/-- A map none of whose values begins a tag is expanded for good. -/
theorem expanded_for_good_of_closed (h : m.resolve = .ok values)
    (hclosed : ∀ name raw, m.get? name = some raw →
      begun? raw.toList = none) :
    values.resolve = .ok values :=
  resolve_values_of_not_joins h fun _ _ _ inner _ =>
    not_joins_of_closed
      (fun _ _ _ htext => begun?_of_resolve h hclosed htext) inner

end TagMap

end Gatewatch.Action
