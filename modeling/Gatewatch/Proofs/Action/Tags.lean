/-
Reading tags, keeping them in a map, and expanding those of a map.

The pieces of a text spell it (`text_pieces`), and a tag is read exactly
where a name is written between brackets (`readTag_eq_some`).

A map is kept in the order of the names of its tags, so it is told by
their values (`TagMap.Ordered.ext`).

Replacing the tags of a text fills its pieces (`toList_replaceTags`), so
only the values of the tags that are in it matter (`replaceTags_congr`).
-/
import Mathlib.Data.List.Basic
import Mathlib.Data.List.Nodup
import Mathlib.Data.List.TakeWhile
import Gatewatch.Action.Tags
import Gatewatch.Proofs.Keyed

namespace Gatewatch.Action

-- ============================================================= reading

/-- A tag is a name of the right characters and a closing bracket. -/
theorem readTag_eq_some {cs rest : List Char} {name : String} :
    readTag cs = some (name, rest) ↔
      name.toList ≠ [] ∧ (∀ c ∈ name.toList, isTagChar c = true)
        ∧ cs = name.toList ++ '>' :: rest := by
  constructor
  · intro h
    unfold readTag at h
    split at h
    case h_1 => cases h
    case h_2 _ _ behind hdrop hne =>
      obtain ⟨rfl, rfl⟩ := Prod.mk.inj (Option.some.inj h)
      rw [String.toList_ofList]
      exact ⟨hne, fun c hc => List.mem_takeWhile_imp hc, by
        rw [← hdrop, List.takeWhile_append_dropWhile]⟩
    case h_3 => cases h
  · rintro ⟨hne, hchars, rfl⟩
    have hstop : isTagChar '>' = false := by decide
    have htake : (name.toList ++ '>' :: rest).takeWhile isTagChar
        = name.toList := by
      rw [List.takeWhile_append_of_pos hchars, List.takeWhile_cons, hstop]
      simp
    have hdrop : (name.toList ++ '>' :: rest).dropWhile isTagChar
        = '>' :: rest := by
      rw [List.dropWhile_append_of_pos hchars, List.dropWhile_cons, hstop]
      simp
    unfold readTag
    rw [htake, hdrop]
    obtain ⟨c, chars, hname⟩ := List.exists_cons_of_ne_nil hne
    rw [hname]
    simp [← hname]

/-- The pieces of a text spell it. -/
theorem text_pieces (cs : List Char) :
    (pieces cs).flatMap Piece.text = cs := by
  fun_induction pieces cs with
  | case1 => rfl
  | case2 cs name rest hread ih =>
      obtain ⟨-, -, hcs⟩ := readTag_eq_some.1 hread
      rw [List.flatMap_cons, ih, hcs]
      simp [Piece.text]
  | case3 cs hread ih => rw [List.flatMap_cons, ih]; rfl
  | case4 c cs hc ih => rw [List.flatMap_cons, ih]; rfl

/-- The tags in a text are those among its pieces. -/
theorem mem_tagsIn_iff {name text : String} :
    name ∈ tagsIn text ↔ .tag name ∈ pieces text.toList := by
  unfold tagsIn
  rw [List.mem_filterMap]
  constructor
  · rintro ⟨p, hp, hname⟩
    cases p with
    | char c => cases hname
    | tag other => exact Option.some.inj hname ▸ hp
  · exact fun h => ⟨.tag name, h, rfl⟩

-- ================================================================ maps

namespace TagMap

/-- The tags are in the order of their names, each name once. -/
def Ordered (m : TagMap) : Prop := m.Pairwise fun a b => a.1 < b.1

/-- A tag of a map in which one was set has its name or was there. -/
theorem name_or_mem_of_mem_put {name value : String} {m : TagMap}
    {tag : String × String} (h : tag ∈ put name value m) : tag.1 = name ∨ tag ∈ m := by
  induction m with
  | nil => exact .inl (congrArg Prod.fst (List.mem_singleton.1 h))
  | cons first rest ih =>
      obtain ⟨k, v⟩ := first
      unfold put at h
      split at h
      case isTrue hsame =>
        rcases List.mem_cons.1 h with rfl | h
        · exact .inl hsame.symm
        · exact .inr (List.mem_cons_of_mem _ h)
      case isFalse =>
        split at h
        case isTrue =>
          rcases List.mem_cons.1 h with rfl | h
          · exact .inl rfl
          · exact .inr h
        case isFalse =>
          rcases List.mem_cons.1 h with rfl | h
          · exact .inr List.mem_cons_self
          · exact (ih h).imp_right (List.mem_cons_of_mem _)

/-- Setting a tag keeps the order. -/
theorem Ordered.put {m : TagMap} (h : m.Ordered) (name value : String) :
    (TagMap.put name value m).Ordered := by
  induction m with
  | nil => exact List.pairwise_singleton ..
  | cons first rest ih =>
      obtain ⟨k, v⟩ := first
      obtain ⟨hfirst, hrest⟩ := List.pairwise_cons.1 h
      unfold TagMap.put
      split
      case isTrue => exact List.pairwise_cons.2 ⟨hfirst, hrest⟩
      case isFalse hne =>
        split
        case isTrue hlt =>
          refine List.pairwise_cons.2 ⟨fun tag hmem => ?_, h⟩
          rcases List.mem_cons.1 hmem with rfl | hmem
          · exact hlt
          · exact String.lt_trans hlt (hfirst tag hmem)
        case isFalse hnot =>
          have habove : k < name := by
            by_contra hge
            exact hne (String.le_antisymm (String.not_lt.1 hge)
              (String.not_lt.1 hnot))
          refine List.pairwise_cons.2 ⟨fun tag hmem => ?_, ih hrest⟩
          rcases name_or_mem_of_mem_put hmem with hname | hmem
          · exact hname ▸ habove
          · exact hfirst tag hmem

/-- A tag that was set has the value that it was set to. -/
theorem get?_put_self (name value : String) (m : TagMap) :
    (put name value m).get? name = some value := by
  unfold get?
  induction m with
  | nil => simp [put]
  | cons tag rest ih =>
      obtain ⟨k, v⟩ := tag
      unfold put
      split
      case isTrue hk => simp [hk]
      case isFalse hk =>
        split
        case isTrue => simp
        case isFalse =>
          rw [List.find?_cons_of_neg (by simpa using Ne.symm hk)]
          exact ih

/-- All other tags have the values that they had. -/
theorem get?_put_of_ne {name other : String} (hother : other ≠ name)
    (value : String) (m : TagMap) :
    (put name value m).get? other = m.get? other := by
  have hname : ((name == other) = false) := by simpa using hother.symm
  unfold get?
  induction m with
  | nil => simp [put, hname]
  | cons tag rest ih =>
      obtain ⟨k, v⟩ := tag
      unfold put
      split
      case isTrue hk => simp [← hk, hname]
      case isFalse hk =>
        split
        case isTrue => simp [hname]
        case isFalse =>
          by_cases hko : k = other
          · simp [hko]
          · rw [List.find?_cons_of_neg (by simpa using hko),
              List.find?_cons_of_neg (by simpa using hko)]
            exact ih

/-- A map in order has no name twice. -/
theorem Ordered.nodup_names {m : TagMap} (h : m.Ordered) : m.names.Nodup :=
  List.pairwise_map.2 (h.imp fun hlt => String.ne_of_lt hlt)

/-- The tags of a map in order are the values of their names. -/
theorem Ordered.mem_iff {m : TagMap} (h : m.Ordered) {name value : String} :
    (name, value) ∈ m ↔ m.get? name = some value := by
  have hnd : (m.map (·.1)).Nodup := h.nodup_names
  unfold get?
  constructor
  · intro hmem
    have hsome : (name, value) ∈ m.filter (·.1 == name) :=
      List.mem_filter.2 ⟨hmem, beq_self_eq_true name⟩
    rw [Keyed.filter_eq_toList hnd, Option.mem_toList] at hsome
    rw [hsome]
    rfl
  · intro hget
    obtain ⟨tag, htag, rfl⟩ := Option.map_eq_some_iff.1 hget
    have hname := List.find?_some htag
    obtain rfl : tag.1 = name := beq_iff_eq.1 hname
    exact List.mem_of_find?_eq_some htag

/-- Maps in order are told apart by the values of their tags. -/
theorem Ordered.ext {m other : TagMap} (h : m.Ordered)
    (hother : other.Ordered)
    (hget : ∀ name, m.get? name = other.get? name) : m = other := by
  have hmem : ∀ tag, tag ∈ m ↔ tag ∈ other := fun ⟨name, value⟩ => by
    rw [h.mem_iff, hother.mem_iff, hget]
  have hperm : m.Perm other :=
    (List.perm_ext_iff_of_nodup (List.Nodup.of_map _ h.nodup_names)
      (List.Nodup.of_map _ hother.nodup_names)).2 hmem
  exact hperm.eq_of_pairwise (fun _ _ _ _ hlt hgt =>
    absurd hgt (String.lt_asymm hlt)) h hother

end TagMap

-- ============================================================= filling

/-- The characters that a piece is filled with: the value of the tag, if
there is one, and else what was written. -/
def Piece.fill (value? : String → Option String) (p : Piece) : List Char :=
  match p.name?.bind value? with
  | some value => value.toList
  | none => p.text

/-- To replace tags is to fill the pieces. -/
theorem toList_replaceTags (value? : String → Option String)
    (text : String) :
    (replaceTags value? text).toList
      = (pieces text.toList).flatMap (Piece.fill value?) := by
  unfold replaceTags
  rw [String.toList_ofList]
  rfl

/-- A tag with a value is filled with it. -/
theorem Piece.fill_of_some {value? : String → Option String}
    {name value : String} (h : value? name = some value) :
    (Piece.tag name).fill value? = value.toList := by
  show (match value? name with
    | some value => value.toList
    | none => (Piece.tag name).text) = _
  rw [h]

/-- A tag without a value is left as it was written. -/
theorem Piece.fill_of_none {value? : String → Option String}
    {name : String} (h : value? name = none) :
    (Piece.tag name).fill value? = (Piece.tag name).text := by
  show (match value? name with
    | some value => value.toList
    | none => (Piece.tag name).text) = _
  rw [h]

/-- A piece is filled alike by values that agree on its name. -/
theorem Piece.fill_congr {value? other? : String → Option String}
    {p : Piece} (h : ∀ name, p.name? = some name → value? name = other? name) :
    p.fill value? = p.fill other? := by
  unfold fill
  cases hname : p.name? with
  | none => rfl
  | some name => rw [Option.bind_some, Option.bind_some, h name hname]

/-- Values that agree on the tags of a text replace them alike. -/
theorem replaceTags_congr {value? other? : String → Option String}
    {text : String} (h : ∀ name ∈ tagsIn text, value? name = other? name) :
    replaceTags value? text = replaceTags other? text := by
  rw [← String.toList_inj, toList_replaceTags, toList_replaceTags]
  refine List.flatMap_congr fun p hp => Piece.fill_congr fun name hname => ?_
  exact h name (List.mem_filterMap.2 ⟨p, hp, hname⟩)

/-- A text without a tag that has a value stays as it is. -/
theorem replaceTags_eq_self {value? : String → Option String}
    {text : String} (h : ∀ name ∈ tagsIn text, value? name = none) :
    replaceTags value? text = text := by
  rw [replaceTags_congr h, ← String.toList_inj, toList_replaceTags]
  have hwritten : Piece.fill (fun _ => none) = Piece.text := by
    funext p
    cases p <;> rfl
  rw [hwritten, text_pieces]

end Gatewatch.Action
