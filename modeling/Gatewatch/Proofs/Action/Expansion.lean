/-
Expanding the tags of a map: it fails where a tag leads back to itself,
and nowhere else.

# What a tag comes to

The value of a tag comes to the text in which every tag of the map is
replaced by what that one comes to (`TagMap.ComesTo`). This says nothing
of an order, of values that are kept, or of tags under expansion. A tag
comes to one text at most, and to none if it leads back to itself, as the
texts that it is made of would have to be there before it.

# The search

An expansion carries the values that are found so far, and the tags whose
expansion led to where it is. Whatever it is begun with, as long as the
values are those that the tags come to (`TagMap.Sound`) and each open tag
leads to the one that is expanded, it ends in one of two ways
(`TagMap.Ends`): with more such values, among them the one that was asked
for, or with a tag that leads back to itself. There is nothing in between
that could be told apart by the order of the names, so the outcome hangs
on the map alone.
-/
import Mathlib.Logic.Relation
import Gatewatch.Proofs.Action.Tags

namespace Gatewatch.Action.TagMap

open Relation (TransGen)

variable {m : TagMap}

-- ========================================================== references

/-- The value of a tag has another tag of the map in it. -/
def Refers (m : TagMap) (name inner : String) : Prop :=
  inner ∈ m.names ∧ ∃ value, m.get? name = some value
    ∧ inner ∈ tagsIn value

/-- No tag leads back to itself. -/
def Acyclic (m : TagMap) : Prop :=
  ∀ name, ¬ TransGen m.Refers name name

/-- The names of a map are those that have a value. -/
theorem isSome_get?_iff (name : String) :
    (m.get? name).isSome = true ↔ name ∈ m.names := by
  unfold get? names
  rw [Option.isSome_map, List.find?_isSome, List.mem_map]
  simp only [beq_iff_eq]

/-- A name that is not in the map has no value. -/
theorem get?_eq_none {name : String} (h : name ∉ m.names) :
    m.get? name = none := by
  rw [← Option.not_isSome_iff_eq_none, isSome_get?_iff]
  exact h

/-- The texts of the tags that are in the map. -/
def among (m : TagMap) (text : String → String) (name : String) :
    Option String := (m.get? name).map fun _ => text name

/-- What the value of a tag comes to when all tags of the map in it are
replaced by what they come to. -/
inductive ComesTo (m : TagMap) : String → String → Prop
  | intro {name value : String} (text : String → String)
      (hvalue : m.get? name = some value)
      (hinner : ∀ inner, m.Refers name inner → ComesTo m inner (text inner)) :
      ComesTo m name (replaceTags (m.among text) value)

namespace ComesTo

/-- A tag comes to one text at most. -/
theorem unique {name first second : String} (h : m.ComesTo name first)
    (h' : m.ComesTo name second) : first = second := by
  induction h generalizing second with
  | @intro name value text hvalue _ ih =>
      obtain ⟨other, hother, hinner⟩ := h'
      obtain rfl := Option.some.inj (hvalue.symm.trans hother)
      refine replaceTags_congr fun inner htag => ?_
      unfold among
      cases hget : m.get? inner with
      | none => rfl
      | some _ =>
          have hrefers : m.Refers name inner :=
            ⟨mem_names_of_get? hget, value, hvalue, htag⟩
          exact congrArg some (ih inner hrefers (hinner inner hrefers))

/-- A tag that comes to something does not lead back to itself: it would
lead a tag in it back to that one first. -/
theorem not_cyclic {name text : String} (h : m.ComesTo name text) :
    ¬ TransGen m.Refers name name := by
  induction h with
  | intro _ _ _ ih =>
      intro hcycle
      obtain ⟨inner, hrefers, hback⟩ := Relation.TransGen.head'_iff.1 hcycle
      exact ih inner hrefers (Relation.TransGen.tail' hback hrefers)

/-- What comes to something is in the map. -/
theorem mem_names {name text : String} (h : m.ComesTo name text) :
    name ∈ m.names := by
  cases h with
  | intro _ hvalue _ => exact mem_names_of_get? hvalue

end ComesTo

-- ========================================================== the search

/-- The values that are kept are those that their tags come to. -/
structure Sound (m found : TagMap) : Prop where
  ordered : found.Ordered
  comes : ∀ name text, found.get? name = some text → m.ComesTo name text

/-- What was found stays found. -/
def Grows (found more : TagMap) : Prop :=
  ∀ name text, found.get? name = some text → more.get? name = some text

/-- A search that is begun with some values found: it goes on with more
of them, and tells what was to be told, or it tells a tag that leads back
to itself. -/
def Ends {α : Type} (m found : TagMap) (x : StateT TagMap Outcome α)
    (told : α → TagMap → Prop) : Prop :=
  match x.run found with
  | .ok (a, more) => m.Sound more ∧ found.Grows more ∧ told a more
  | .error e => ∃ name, e = .cyclicTag name ∧ TransGen m.Refers name name

namespace Ends

variable {α β : Type} {found : TagMap}

theorem pure {a : α} {told : α → TagMap → Prop} (hfound : m.Sound found)
    (ha : told a found) : m.Ends found (Pure.pure a) told :=
  ⟨hfound, fun _ _ h => h, ha⟩

/-- A search that looks at what was found. -/
theorem get {f : TagMap → StateT TagMap Outcome α}
    {told : α → TagMap → Prop} (hf : m.Ends found (f found) told) :
    m.Ends found (MonadState.get >>= f) told := hf

/-- A search, and then another one with what the first has found. -/
theorem bind {x : StateT TagMap Outcome α}
    {f : α → StateT TagMap Outcome β} {first : α → TagMap → Prop}
    {told : β → TagMap → Prop} (hx : m.Ends found x first)
    (hf : ∀ a more, m.Sound more → found.Grows more → first a more →
      m.Ends more (f a) told) :
    m.Ends found (x >>= f) told := by
  have hrun : (x >>= f).run found
      = x.run found >>= fun out => (f out.1).run out.2 := StateT.run_bind ..
  unfold Ends at hx ⊢
  rw [hrun]
  cases hout : x.run found with
  | error e =>
      rw [hout] at hx
      exact hx
  | ok out =>
      obtain ⟨a, more⟩ := out
      rw [hout] at hx
      obtain ⟨hsound, hgrows, ha⟩ := hx
      have hnext := hf a more hsound hgrows ha
      unfold Ends at hnext
      show match (f a).run more with
        | .ok (b, more) => m.Sound more ∧ found.Grows more ∧ told b more
        | .error e => ∃ name, e = .cyclicTag name
            ∧ TransGen m.Refers name name
      cases hrest : (f a).run more with
      | error e =>
          rw [hrest] at hnext
          exact hnext
      | ok out =>
          rw [hrest] at hnext
          obtain ⟨hsound', hgrows', hb⟩ := hnext
          exact ⟨hsound', fun name text h => hgrows' name text
            (hgrows name text h), hb⟩

end Ends

/-- What is found of a tag stays, if it is one of the map. -/
theorem Grows.get?_eq {found more : TagMap} (hgrows : found.Grows more)
    (hsound : m.Sound more) {name : String}
    (hfound : name ∈ m.names → (found.get? name).isSome = true) :
    more.get? name = found.get? name := by
  cases hget : found.get? name with
  | some text => exact hgrows name text hget
  | none =>
      by_contra hmore
      obtain ⟨text, htext⟩ := Option.ne_none_iff_exists'.1 hmore
      have hname := hfound (hsound.comes name text htext).mem_names
      rw [hget] at hname
      cases hname

/-- Whether all tags of the map among some pieces are found. -/
def FoundIn (m found : TagMap) (ps : List Piece) : Prop :=
  ∀ p ∈ ps, ∀ name, p.name? = some name → name ∈ m.names →
    (found.get? name).isSome = true

/-- What is put in place of a piece is what fills it, as long as what is
found for its tag is. -/
theorem ends_piece {found : TagMap} (hfound : m.Sound found)
    {value? : String → StateT TagMap Outcome (Option String)} {p : Piece}
    (hp : ∀ name, p.name? = some name →
      m.Ends found (value? name) fun text? more =>
        text? = more.get? name
          ∧ (name ∈ m.names → (more.get? name).isSome = true)) :
    m.Ends found (match p with
        | .char _ => return p.text
        | .tag name => do
          match ← value? name with
          | some value => return value.toList
          | none => return p.text)
      fun cs more => cs = p.fill more.get? ∧ m.FoundIn more [p] := by
  cases p with
  | char c =>
      refine .pure hfound ⟨rfl, fun p hp name hname => ?_⟩
      rw [List.mem_singleton.1 hp] at hname
      cases hname
  | tag name =>
      refine .bind (hp name rfl) fun text? more hmore _ htext => ?_
      obtain ⟨rfl, hin⟩ := htext
      have hall : m.FoundIn more [.tag name] := by
        intro p hp inner hinner
        rw [List.mem_singleton.1 hp] at hinner
        exact Option.some.inj hinner ▸ hin
      split
      case h_1 value hvalue =>
        exact .pure hmore ⟨(Piece.fill_of_some hvalue).symm, hall⟩
      case h_2 hnone =>
        exact .pure hmore ⟨(Piece.fill_of_none hnone).symm, hall⟩

/-- Where each tag among some pieces is found in turn, the pieces are
filled with what is found in the end. -/
theorem ends_pieces {found : TagMap} (hfound : m.Sound found)
    {ps : List Piece}
    {value? : String → StateT TagMap Outcome (Option String)}
    (hvalue : ∀ p ∈ ps, ∀ name, p.name? = some name →
      ∀ found, m.Sound found →
        m.Ends found (value? name) fun text? more =>
          text? = more.get? name
            ∧ (name ∈ m.names → (more.get? name).isSome = true)) :
    m.Ends found (ps.mapM fun p => match p with
        | .char _ => return p.text
        | .tag name => do
          match ← value? name with
          | some value => return value.toList
          | none => return p.text)
      fun parts more => parts.flatten = ps.flatMap (Piece.fill more.get?)
        ∧ m.FoundIn more ps := by
  induction ps generalizing found with
  | nil => exact .pure hfound ⟨rfl, nofun⟩
  | cons p rest ih =>
      rw [List.mapM_cons]
      refine .bind (ends_piece hfound fun name hname =>
          hvalue p (List.mem_cons_self ..) name hname found hfound)
        fun cs more hmore _ hcs => ?_
      refine .bind (ih hmore fun p hp =>
          hvalue p (List.mem_cons_of_mem _ hp))
        fun parts last hlast hgrows hparts => ?_
      obtain ⟨rfl, hin⟩ := hcs
      -- the first piece is filled by what is found in the end, too
      have hstays : ∀ name, p.name? = some name →
          last.get? name = more.get? name := fun name hname =>
        hgrows.get?_eq hlast (hin p (List.mem_cons_self ..) name hname)
      refine .pure hlast ⟨?_, ?_⟩
      · rw [List.flatten_cons, List.flatMap_cons, hparts.1,
          Piece.fill_congr hstays]
      · intro q hq name hname hmem
        rcases List.mem_cons.1 hq with rfl | hq
        · rw [hstays name hname]
          exact hin q (List.mem_cons_self ..) name hname hmem
        · exact hparts.2 q hq name hname hmem

/-- Where each tag in a text is found in turn, they are replaced by what
is found in the end. -/
theorem ends_replaceTagsIn {found : TagMap} (hfound : m.Sound found)
    {text : String}
    {value? : String → StateT TagMap Outcome (Option String)}
    (hvalue : ∀ name ∈ tagsIn text, ∀ found, m.Sound found →
      m.Ends found (value? name) fun text? more =>
        text? = more.get? name
          ∧ (name ∈ m.names → (more.get? name).isSome = true)) :
    m.Ends found (replaceTagsIn text value?) fun out more =>
      out = replaceTags more.get? text
        ∧ ∀ inner ∈ tagsIn text, inner ∈ m.names →
          (more.get? inner).isSome = true := by
  refine .bind (ends_pieces hfound fun p hp name hname =>
      hvalue name (List.mem_filterMap.2 ⟨p, hp, hname⟩))
    fun parts more hmore _ hparts => ?_
  refine .pure hmore ⟨?_, fun inner hinner hmem => ?_⟩
  · rw [← String.toList_inj, String.toList_ofList, toList_replaceTags,
      hparts.1]
  · obtain ⟨p, hp, hname⟩ := List.mem_filterMap.1 hinner
    exact hparts.2 p hp inner hname hmem

/-- Where the tags in the value of a tag are found, replacing them by
what is found gives what the tag comes to. -/
theorem ComesTo.of_found {found : TagMap} (hfound : m.Sound found)
    {name value : String} (hvalue : m.get? name = some value)
    (hinner : ∀ inner ∈ tagsIn value, inner ∈ m.names →
      (found.get? inner).isSome = true) :
    m.ComesTo name (replaceTags found.get? value) := by
  have htext : replaceTags found.get? value
      = replaceTags (m.among fun inner => (found.get? inner).getD "")
          value := by
    refine replaceTags_congr fun inner htag => ?_
    unfold among
    cases hget : found.get? inner with
    | some text =>
        have hmem := (hfound.comes inner text hget).mem_names
        obtain ⟨_, hraw⟩ := Option.isSome_iff_exists.1
          (isSome_get?_iff inner |>.2 hmem)
        rw [hraw, Option.map_some]
        dsimp only
        rw [hget, Option.getD_some]
    | none =>
        have hout : inner ∉ m.names := fun hmem => by
          have hsome := hinner inner htag hmem
          rw [hget] at hsome
          cases hsome
        rw [get?_eq_none hout]
        rfl
  rw [htext]
  refine .intro _ hvalue fun inner hrefers => ?_
  obtain ⟨hmem, _, hvalue', htag⟩ := hrefers
  obtain rfl := Option.some.inj (hvalue.symm.trans hvalue')
  obtain ⟨text, hget⟩ := Option.isSome_iff_exists.1 (hinner inner htag hmem)
  rw [hget]
  exact hfound.comes inner text hget

/-- What a tag comes to may be kept. -/
theorem Sound.put {found : TagMap} (hfound : m.Sound found)
    {name text : String} (h : m.ComesTo name text) :
    m.Sound (TagMap.put name text found)
      ∧ found.Grows (TagMap.put name text found) := by
  have hget : ∀ other, (TagMap.put name text found).get? other
      = if other = name then some text else found.get? other := by
    intro other
    split
    case isTrue hname => rw [hname, get?_put_self]
    case isFalse hne => rw [get?_put_of_ne hne]
  refine ⟨⟨hfound.ordered.put name text, fun other told htold => ?_⟩,
    fun other told htold => ?_⟩
  · rw [hget] at htold
    split at htold
    case isTrue hname => exact hname ▸ Option.some.inj htold ▸ h
    case isFalse => exact hfound.comes other told htold
  · rw [hget]
    split
    case isTrue hname =>
      exact congrArg some (h.unique (hname ▸ hfound.comes other told htold))
    case isFalse => exact htold

/-- A tag in a value is searched for if it is one of the map. -/
theorem ends_inner {found : TagMap} (hfound : m.Sound found)
    {inner : String} {x : StateT TagMap Outcome String}
    (hx : inner ∈ m.names →
      m.Ends found x fun text more => more.get? inner = some text) :
    m.Ends found
      (if (m.get? inner).isNone then return none else some <$> x)
      fun text? more => text? = more.get? inner
        ∧ (inner ∈ m.names → (more.get? inner).isSome = true) := by
  split
  case isTrue hnone =>
    have hout : inner ∉ m.names := fun hmem => by
      rw [← isSome_get?_iff, Option.isNone_iff_eq_none.1 hnone] at hmem
      cases hmem
    refine .pure hfound ⟨?_, fun hmem => absurd hmem hout⟩
    cases hget : found.get? inner with
    | none => rfl
    | some text => exact absurd (hfound.comes inner text hget).mem_names hout
  case isFalse hsome =>
    have hmem : inner ∈ m.names := by
      rw [← isSome_get?_iff, Option.isSome_iff_ne_none]
      simpa using hsome
    rw [map_eq_pure_bind]
    refine .bind (hx hmem) fun text more hmore _ htext => ?_
    refine .pure hmore ⟨htext.symm, fun _ => ?_⟩
    rw [htext]
    rfl

/-- The search for a tag of the map, with open tags that lead to it. -/
theorem ends_expand {found : TagMap} (hfound : m.Sound found)
    (open' : List String) {name : String} (hname : name ∈ m.names)
    (hopen : ∀ o ∈ open', TransGen m.Refers o name) :
    m.Ends found (m.expand open' name) fun text more =>
      more.get? name = some text := by
  rw [expand]
  refine .get ?_
  split
  case h_1 text htext => exact .pure hfound htext
  case h_2 =>
    split
    case h_1 hnone =>
      rw [← isSome_get?_iff, hnone] at hname
      cases hname
    case h_2 value hvalue =>
      split
      case isTrue hseen => exact ⟨name, rfl, hopen name hseen⟩
      case isFalse hnew =>
        have hless : (m.fresh (name :: open')).length
            < (m.fresh open').length :=
          length_fresh_cons_lt hname hnew
        refine .bind (ends_replaceTagsIn hfound
          fun inner htag found hfound => ends_inner hfound fun hmem => ?_)
          fun out more hmore _ hout => ?_
        · have hrefers : m.Refers name inner := ⟨hmem, value, hvalue, htag⟩
          refine ends_expand hfound (name :: open') hmem fun o ho => ?_
          rcases List.mem_cons.1 ho with rfl | ho
          · exact .single hrefers
          · exact (hopen o ho).tail hrefers
        · obtain ⟨rfl, hinner⟩ := hout
          obtain ⟨hsound, hgrows⟩ := hmore.put
            (.of_found hmore hvalue hinner)
          exact ⟨hsound, hgrows, get?_put_self ..⟩
termination_by (m.fresh open').length

/-- The search for some tags of the map, one after the other. -/
theorem ends_expandAll {found : TagMap} (hfound : m.Sound found)
    {names : List String} (hnames : ∀ name ∈ names, name ∈ m.names) :
    m.Ends found (names.mapM (m.expand [])) fun _ more =>
      ∀ name ∈ names, (more.get? name).isSome = true := by
  induction names generalizing found with
  | nil => exact .pure hfound nofun
  | cons first rest ih =>
      rw [List.mapM_cons]
      refine .bind (ends_expand hfound [] (hnames first
        (List.mem_cons_self ..)) nofun) fun text more hmore _ htext => ?_
      refine .bind (ih hmore fun name hname =>
          hnames name (List.mem_cons_of_mem _ hname))
        fun texts last hlast hgrows hall => ?_
      refine .pure hlast fun name hname => ?_
      rcases List.mem_cons.1 hname with rfl | hname
      · rw [hgrows _ text htext]
        rfl
      · exact hall name hname

/-- Expanding all values of a map tells of a tag that leads back to
itself, or it finds what each tag comes to. -/
theorem resolve_cases (m : TagMap) :
    (∃ name, m.resolve = .error (.cyclicTag name)
        ∧ TransGen m.Refers name name)
      ∨ ∃ values, m.resolve = .ok values ∧ m.Sound values
        ∧ ∀ name ∈ m.names, (values.get? name).isSome = true := by
  have hempty : m.Sound [] := ⟨.nil, nofun⟩
  have hends := ends_expandAll hempty fun name (h : name ∈ m.names) => h
  unfold Ends at hends
  unfold resolve
  cases hrun : (m.names.mapM (m.expand [])).run [] with
  | error e =>
      rw [hrun] at hends
      obtain ⟨name, rfl, hcycle⟩ := hends
      exact .inl ⟨name, rfl, hcycle⟩
  | ok out =>
      rw [hrun] at hends
      exact .inr ⟨out.2, rfl, hends.1, hends.2.2⟩

/-- A map in which no tag leads back to itself has all its values
expanded. -/
theorem resolve_of_acyclic {m : TagMap} (h : m.Acyclic) :
    ∃ values, m.resolve = .ok values := by
  obtain ⟨name, -, hcycle⟩ | ⟨values, hvalues, -⟩ := m.resolve_cases
  · exact absurd hcycle (h name)
  · exact ⟨values, hvalues⟩

-- ========================================================== the outcome

/-- The values that a map comes to are those that its tags come to, one
for each of them. -/
theorem sound_of_resolve {values : TagMap} (h : m.resolve = .ok values) :
    m.Sound values
      ∧ ∀ name ∈ m.names, (values.get? name).isSome = true := by
  obtain ⟨_, herror, -⟩ | ⟨found, hfound, hsound⟩ := m.resolve_cases
  · rw [herror] at h
    cases h
  · rw [hfound] at h
    exact Except.ok.inj h ▸ hsound

/-- The expanded values of a map are a map of the same names. -/
theorem names_of_resolve {values : TagMap} (h : m.resolve = .ok values)
    (name : String) : name ∈ values.names ↔ name ∈ m.names := by
  obtain ⟨hsound, hall⟩ := sound_of_resolve h
  refine ⟨fun hname => ?_, fun hname => ?_⟩
  · obtain ⟨text, htext⟩ := Option.isSome_iff_exists.1
      ((isSome_get?_iff name).2 hname)
    exact (hsound.comes name text htext).mem_names
  · exact (isSome_get?_iff name).1 (hall name hname)

/-- An expanded value is the value with the tags of the map in it replaced
by their expanded values. -/
theorem get?_of_resolve {values : TagMap} (h : m.resolve = .ok values)
    {name value : String} (hvalue : m.get? name = some value) :
    values.get? name = some (replaceTags values.get? value) := by
  obtain ⟨hsound, hall⟩ := sound_of_resolve h
  obtain ⟨text, htext⟩ := Option.isSome_iff_exists.1
    (hall name (mem_names_of_get? hvalue))
  have hcomes : m.ComesTo name (replaceTags values.get? value) :=
    .of_found hsound hvalue fun inner _ hmem => hall inner hmem
  rw [htext, (hsound.comes name text htext).unique hcomes]

/-- Expanding all values of a map ends, whatever its tags are and in
whatever order. It fails exactly when some tag leads back to itself, and
then tells such a tag. Else there are values for the same names, and each
of them is the value with the tags of the map in it replaced by theirs,
and all other tags left as they are. -/
theorem resolve_fails_iff_cyclic (m : TagMap) :
    ((∃ e, m.resolve = .error e) ↔ ∃ name, TransGen m.Refers name name)
      ∧ (∀ e, m.resolve = .error e →
          ∃ name, e = .cyclicTag name ∧ TransGen m.Refers name name)
      ∧ ∀ values, m.resolve = .ok values →
          values.Ordered
            ∧ (∀ name, name ∈ values.names ↔ name ∈ m.names)
            ∧ ∀ name value, m.get? name = some value →
              values.get? name = some (replaceTags values.get? value) := by
  refine ⟨⟨?_, ?_⟩, fun e he => ?_, fun values hvalues => ?_⟩
  · rintro ⟨e, he⟩
    obtain ⟨name, -, hcycle⟩ | ⟨values, hvalues, -⟩ := m.resolve_cases
    · exact ⟨name, hcycle⟩
    · rw [hvalues] at he
      cases he
  · rintro ⟨name, hcycle⟩
    obtain ⟨_, herror, -⟩ | ⟨values, -, hsound, hall⟩ := m.resolve_cases
    · exact ⟨_, herror⟩
    · obtain ⟨_, -, hname, -⟩ := Relation.TransGen.tail'_iff.1 hcycle
      obtain ⟨text, htext⟩ := Option.isSome_iff_exists.1 (hall name hname)
      exact absurd hcycle (hsound.comes name text htext).not_cyclic
  · obtain ⟨name, herror, hcycle⟩ | ⟨values, hvalues, -⟩ := m.resolve_cases
    · rw [herror] at he
      exact ⟨name, (Except.error.inj he).symm, hcycle⟩
    · rw [hvalues] at he
      cases he
  · exact ⟨(sound_of_resolve hvalues).1.ordered, names_of_resolve hvalues,
      fun _ _ hvalue => get?_of_resolve hvalues hvalue⟩

/-- A tag may lead to another one in two ways without leading back. -/
example : resolve [("a", "3"), ("b", "<a>_3 <ip>"), ("c", "<b>-<a>")]
    = .ok [("a", "3"), ("b", "3_3 <ip>"), ("c", "3_3 <ip>-3")] := by
  decide +kernel

end Gatewatch.Action.TagMap
