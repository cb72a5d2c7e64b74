/-
Lists in which a key names at most one item.

Where no two items have one key, the items with a key are the one that
is found for it, so dropping items filters what is found.
-/

namespace Gatewatch.Keyed

variable {α κ : Type} [DecidableEq κ] {key : α → κ}

/-- The items with a key are the one that is found for it. -/
theorem filter_eq_toList {items : List α} (hnd : (items.map key).Nodup)
    (k : κ) :
    items.filter (key · == k) = (items.find? (key · == k)).toList := by
  induction items with
  | nil => rfl
  | cons x rest ih =>
      rw [List.map_cons, List.nodup_cons] at hnd
      by_cases hx : key x = k
      · have hnone : rest.filter (key · == k) = [] := by
          rw [List.filter_eq_nil_iff]
          intro y hy hyk
          refine hnd.1 (List.mem_map.mpr ⟨y, hy, ?_⟩)
          rw [hx]
          simpa using hyk
        simp [hx, hnone]
      · simp [hx, ih hnd.2]

/-- Dropping items drops what was found, or leaves it. -/
theorem find?_filter {items : List α} (hnd : (items.map key).Nodup)
    (p : α → Bool) (k : κ) :
    (items.filter p).find? (key · == k)
      = (items.find? (key · == k)).filter p := by
  have hcomm : (items.filter p).filter (key · == k)
      = (items.filter (key · == k)).filter p := by
    rw [List.filter_filter, List.filter_filter]
    exact List.filter_congr fun x _ => Bool.and_comm _ _
  rw [← List.head?_filter, hcomm, filter_eq_toList hnd]
  cases items.find? (key · == k) with
  | none => rfl
  | some x => cases hp : p x <;> simp [Option.filter, hp]

end Gatewatch.Keyed
