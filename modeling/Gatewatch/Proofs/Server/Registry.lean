/-
The jails of a server by their names: what is found under a name after a
jail was put in its place, in the order of names or in the place of the
one before.

A name that another jail has is not asked for here. Where it would matter
the lemmas say that the name is new.
-/
import Gatewatch.Server.Basic

namespace Gatewatch.Server

variable {s : Server} {j k : Jail} {jails : List Jail} {name : String}

-- ============================================================ insertion

/-- Putting a jail in its place adds it, somewhere. -/
theorem insertJail_perm (j : Jail) (jails : List Jail) :
    (insertJail j jails).Perm (j :: jails) := by
  induction jails with
  | nil => exact .refl _
  | cons k rest ih =>
      unfold insertJail
      split
      case isTrue => exact .refl _
      case isFalse => exact (ih.cons k).trans (.swap j k rest)

/-- A jail is found under its name where the name was new. -/
theorem find?_insertJail_self
    (hnew : jails.find? (·.name == j.name) = none) :
    (insertJail j jails).find? (·.name == j.name) = some j := by
  induction jails with
  | nil => simp [insertJail]
  | cons k rest ih =>
      rw [List.find?_cons] at hnew
      cases hk : k.name == j.name with
      | true => rw [hk] at hnew; cases hnew
      | false =>
          rw [hk] at hnew
          unfold insertJail
          split
          case isTrue => simp
          case isFalse => rw [List.find?_cons, hk]; exact ih hnew

/-- Under other names the same is found as before. -/
theorem find?_insertJail_of_ne (hname : name ≠ j.name) :
    (insertJail j jails).find? (·.name == name)
      = jails.find? (·.name == name) := by
  have hj : (j.name == name) = false := by simpa using hname.symm
  induction jails with
  | nil => rw [insertJail, List.find?_cons, hj]
  | cons k rest ih =>
      unfold insertJail
      split
      case isTrue => rw [List.find?_cons, hj]
      case isFalse => rw [List.find?_cons, List.find?_cons, ih]

-- ========================================================== replacement

/-- A jail that is put in the place of the one with its name is found
there. -/
theorem find?_replaceJail_self
    (hj : jails.find? (·.name == k.name) = some j) :
    (replaceJail k jails).find? (·.name == k.name) = some k := by
  induction jails with
  | nil => cases hj
  | cons first rest ih =>
      unfold replaceJail
      split
      case isTrue => simp
      case isFalse hfirst =>
        have hne : (first.name == k.name) = false := by simpa using hfirst
        rw [List.find?_cons, hne] at hj ⊢
        exact ih hj

/-- Under other names the same is found as before. -/
theorem find?_replaceJail_of_ne (hname : name ≠ k.name) :
    (replaceJail k jails).find? (·.name == name)
      = jails.find? (·.name == name) := by
  have hk : (k.name == name) = false := by simpa using hname.symm
  induction jails with
  | nil => rfl
  | cons first rest ih =>
      unfold replaceJail
      split
      case isTrue hfirst =>
        rw [List.find?_cons, List.find?_cons, hfirst, hk]
      case isFalse => rw [List.find?_cons, List.find?_cons, ih]

/-- The names stay where they are. -/
theorem map_name_replaceJail (k : Jail) (jails : List Jail) :
    (replaceJail k jails).map Jail.name = jails.map Jail.name := by
  induction jails with
  | nil => rfl
  | cons first rest ih =>
      unfold replaceJail
      split
      case isTrue hfirst => rw [List.map_cons, List.map_cons, hfirst]
      case isFalse => rw [List.map_cons, List.map_cons, ih]

/-- To put the jail back that is found under a name changes nothing. -/
theorem replaceJail_self (hj : jails.find? (·.name == name) = some j) :
    replaceJail j jails = jails := by
  have hname : j.name = name := by simpa using List.find?_some hj
  induction jails with
  | nil => cases hj
  | cons first rest ih =>
      rw [List.find?_cons] at hj
      unfold replaceJail
      rw [hname]
      cases hfirst : first.name == name with
      | true =>
          rw [hfirst] at hj
          injection hj with hj
          rw [if_pos (by simpa using hfirst), hj]
      | false =>
          rw [hfirst] at hj
          rw [if_neg (by simpa using hfirst), ih hj]

theorem jail?_replace_self (hj : s.jail? k.name = some j) :
    (s.replace k).jail? k.name = some k :=
  find?_replaceJail_self hj

theorem jail?_replace_of_ne (hname : name ≠ k.name) :
    (s.replace k).jail? name = s.jail? name :=
  find?_replaceJail_of_ne hname

theorem names_replace (s : Server) (k : Jail) :
    (s.replace k).names = s.names :=
  map_name_replaceJail k s.jails

/-- To put the jail back that is found under a name changes nothing. -/
theorem replace_self (hj : s.jail name = .ok j) : s.replace j = s := by
  unfold jail at hj
  cases hfound : s.jail? name with
  | none => rw [hfound] at hj; cases hj
  | some k =>
      rw [hfound] at hj
      injection hj with hj
      unfold replace
      rw [← hj, replaceJail_self hfound]

end Gatewatch.Server
