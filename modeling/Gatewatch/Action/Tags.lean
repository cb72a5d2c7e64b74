/-
Tags in command templates. A tag is a name between angle brackets; the name holds neither a
blank nor a closing bracket, and starts right after the first bracket. Values of static tags
may hold tags of the same map, which are expanded; the values of an event are put in last and
stay as they are, except that the lines from the log are quoted for the shell.
-/
import Gatewatch.Ban.Basic
import Gatewatch.Error
import Gatewatch.Text.Replace

namespace Gatewatch.Action

-- ============================================================= scanning

/-- A piece of a template: a character, or a tag. -/
inductive Piece where
  | char (c : Char)
  | tag (name : String)
deriving DecidableEq, Repr

/-- Whether a character may stand in the name of a tag. -/
def isTagChar (c : Char) : Bool := c != ' ' && c != '>'

/-- Reads a tag behind its opening bracket. -/
def readTag (cs : List Char) : Option (String × List Char) :=
  match cs.takeWhile isTagChar, cs.dropWhile isTagChar with
  | [], _ => none
  | name, '>' :: rest => some (String.ofList name, rest)
  | _, _ => none

theorem length_readTag_lt {cs rest : List Char} {name : String}
    (h : readTag cs = some (name, rest)) : rest.length < cs.length := by
  have drop : (cs.dropWhile isTagChar).length ≤ cs.length :=
    (List.dropWhile_sublist isTagChar).length_le
  unfold readTag at h
  split at h
  · simp at h
  · rename_i eq _
    simp only [Option.some.injEq, Prod.mk.injEq] at h
    obtain ⟨_, rfl⟩ := h
    rw [eq] at drop
    exact drop
  · simp at h

/-- Cuts a template into its pieces. -/
def pieces : List Char → List Piece
  | [] => []
  | c :: cs =>
    if c = '<' then
      match _ : readTag cs with
      | some (name, rest) => .tag name :: pieces rest
      | none => .char c :: pieces cs
    else .char c :: pieces cs
termination_by cs => cs.length
decreasing_by
  · exact Nat.lt_succ_of_lt (length_readTag_lt ‹_›)
  · simp
  · simp

/-- The name of a piece that is a tag. -/
def Piece.name? : Piece → Option String
  | char _ => none
  | tag name => some name

/-- The text of a piece as it was written. -/
def Piece.text : Piece → List Char
  | char c => [c]
  | tag name => '<' :: name.toList ++ ['>']

/-- The names of the tags in a text, in order. -/
def tagsIn (text : String) : List String := (pieces text.toList).filterMap Piece.name?

/-- A text with the tags replaced that `value?` has a value for. -/
def replaceTags (value? : String → Option String) (text : String) : String :=
  String.ofList <| (pieces text.toList).flatMap fun p =>
    match p.name?.bind value? with
    | some value => value.toList
    | none => p.text

/-- A text with the tags replaced for which values are found, one after the other. -/
def replaceTagsIn {μ : Type → Type} [Monad μ] (text : String)
    (value? : String → μ (Option String)) : μ String := do
  let parts ← (pieces text.toList).mapM fun p =>
    match p with
    | .char _ => return p.text
    | .tag name => do
      match ← value? name with
      | some value => return value.toList
      | none => return p.text
  return String.ofList parts.flatten

-- ========================================================== static tags

/-- Static tags with their values, in the order of their names. -/
abbrev TagMap := List (String × String)

namespace TagMap

/-- The value of a tag. -/
def get? (m : TagMap) (name : String) : Option String := (m.find? (·.1 == name)).map (·.2)

/-- Sets the value of a tag. -/
def put (name value : String) : TagMap → TagMap
  | [] => [(name, value)]
  | (k, v) :: rest =>
    if name = k then (k, value) :: rest
    else if name < k then (name, value) :: (k, v) :: rest
    else (k, v) :: put name value rest

/-- Takes a tag away. -/
def erase (m : TagMap) (name : String) : TagMap := m.filter (·.1 != name)

/-- The names of the tags. -/
def names (m : TagMap) : List String := m.map (·.1)

/-- A map from its tags in any order; of two with one name the last counts. -/
def ofList (tags : List (String × String)) : TagMap :=
  tags.foldl (fun m tag => put tag.1 tag.2 m) []

/-- The names that are not among those under expansion. -/
def fresh (m : TagMap) (open' : List String) : List String :=
  m.names.filter fun name => !open'.contains name

theorem mem_names_of_get? {m : TagMap} {name value : String} (h : m.get? name = some value) :
    name ∈ m.names := by
  simp only [get?, Option.map_eq_some_iff] at h
  obtain ⟨tag, found, _⟩ := h
  have same := List.find?_some found
  exact List.mem_map.2 ⟨tag, List.mem_of_find?_eq_some found, by simpa using same⟩

theorem length_fresh_cons_lt {m : TagMap} {name : String} {open' : List String}
    (mem : name ∈ m.names) (new : name ∉ open') :
    (m.fresh (name :: open')).length < (m.fresh open').length := by
  have sub : m.fresh (name :: open') = (m.fresh open').filter (· != name) := by
    simp only [fresh, List.filter_filter]
    congr 1
    funext x
    by_cases hx : x = name <;> simp [hx]
  rw [sub]
  exact List.length_filter_lt_length_iff_exists.2
    ⟨name, List.mem_filter.2 ⟨mem, by simpa using new⟩, by simp⟩

/-- The value of a tag with the tags of the map in it expanded. What was expanded before is found
among the values that are kept on the way; `open'` holds the tags whose expansion led here. A tag
that is not in the map stands for itself. -/
def expand (m : TagMap) (open' : List String) (name : String) : StateT TagMap Outcome String := do
  match (← get).get? name with
  | some expanded => return expanded
  | none =>
    match _ : m.get? name with
    | none => return String.ofList (Piece.tag name).text
    | some value =>
      if _ : name ∈ open' then throw (.cyclicTag name)
      else
        let expanded ← replaceTagsIn value fun inner =>
          if (m.get? inner).isNone then return none
          else some <$> m.expand (name :: open') inner
        modify (put name expanded)
        return expanded
termination_by (m.fresh open').length
decreasing_by
  exact length_fresh_cons_lt (mem_names_of_get? ‹_›) ‹_›

/-- The map with all its values expanded. -/
def resolve (m : TagMap) : Outcome TagMap := do
  let (_, expanded) ← (m.names.mapM (m.expand [])).run []
  return expanded

end TagMap

-- ======================================================== event values

/-- The characters that mean something to a shell. -/
def shellSpecial : List Char := "\\#&;`|*?~<>^()[]\x7b\x7d$\n'\"".toList

/-- The characters of a text, with a backslash before those that mean something to a shell. -/
def escapeChars (cs : List Char) : List Char :=
  cs.flatMap fun c => if shellSpecial.contains c then ['\\', c] else [c]

/-- A text with a backslash before what means something to a shell. -/
def escape (text : String) : String := String.ofList (escapeChars text.toList)

/-- The value of a tag of an event, fit to be put into a command. -/
def eventValue? (e : Ban.Event) (name : String) : Option String :=
  (e.get? name).map fun value => if name = "matches" then escape value else value

/-- What stands for a line break in a template. -/
def breakMark : String := "<br>"

/-- The command that a template gives: static tags first, then those of the event, then line
breaks. -/
def substitute (template : String) (tags : TagMap) (event : Option Ban.Event) :
    Outcome String := do
  let tags ← tags.resolve
  let text := replaceTags tags.get? template
  let text := match event with
    | some e => replaceTags (eventValue? e) text
    | none => text
  return Text.replaceAll text breakMark "\n"

end Gatewatch.Action
