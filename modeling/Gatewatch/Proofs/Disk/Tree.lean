/-
Files under names, and what appending does to them.

Appending changes the bytes of one node: every text still names what it
named (`resolve_appendTo`), other nodes are as before, and a file that
is named has the new bytes behind the old (`Holds.append`). A note that
the log records is appended to the log's own file, so it leaves every
other file alone (`Holds.record`).
-/
import Gatewatch.Disk.Tree
import Gatewatch.Host

namespace Gatewatch.Disk.Tree

-- ============================================================== naming

/-- A text names the node with a number, at a path. -/
theorem find_eq_ok {t : Tree} {text : String} {n : Nat} {node : Node} :
    t.find text = .ok (n, node) ↔ ∃ p, t.resolve text = .ok p
      ∧ t.number? p = some n ∧ t.node? n = some node := by
  unfold find
  constructor
  · intro h
    cases hpath : t.resolve text with
    | error e =>
        rw [hpath] at h
        cases h
    | ok p =>
        simp only [hpath, bind, Except.bind] at h
        split at h
        case h_1 => cases h
        case h_2 m hnumber =>
          split at h
          case h_1 x hnode =>
            cases h
            exact ⟨p, rfl, hnumber, hnode⟩
          case h_2 => cases h
  · rintro ⟨p, hpath, hnumber, hnode⟩
    simp only [hpath, bind, Except.bind, hnumber, hnode]

/-- Following names looks at nothing but which paths lead to something,
and which to directories. -/
theorem walk_congr {t u : Tree}
    (hdir : ∀ p, u.isDirectory p = t.isDirectory p)
    (hat : ∀ p, (u.at? p).isSome = (t.at? p).isSome)
    (start : Path) (names : List String) :
    u.walk start names = t.walk start names := by
  induction names generalizing start with
  | nil => rfl
  | cons name rest ih => simp only [walk, hdir, hat, ih]

-- =========================================================== appending

/-- A node that is given a content and a stamp; the others are as
before. -/
theorem node?_setNode (t : Tree) (n : Nat) (content : Content)
    (stamp : Stamp) (k : Nat) :
    (t.setNode n content stamp).node? k
      = (t.node? k).map fun node =>
          if k = n then ⟨content, stamp⟩ else node := by
  show ((t.nodes.map _).find? (·.1 == k)).map Prod.snd
    = ((t.nodes.find? (·.1 == k)).map Prod.snd).map _
  rw [List.find?_map]
  show Option.map _ (Option.map _ (t.nodes.find? (·.1 == k))) = _
  cases hfind : t.nodes.find? (·.1 == k) with
  | none => rfl
  | some found =>
      have hk : found.1 = k := by simpa using List.find?_some hfind
      simp [hk]

/-- Noting a change moves neither names nor nodes. -/
theorem changed_eq (t : Tree) (n : Nat) :
    ∃ changes, t.changed n = { t with changes } := by
  unfold changed
  split
  · exact ⟨_, rfl⟩
  · exact ⟨_, rfl⟩

/-- What appending comes to: nothing, or new bytes in one file. -/
theorem appendTo_cases (t : Tree) (n : Nat) (more : List UInt8) :
    ((more = [] ∨ ∀ old stamp, t.node? n ≠ some ⟨.file old, stamp⟩)
        ∧ t.appendTo n more = t)
      ∨ ∃ old stamp changes, t.node? n = some ⟨.file old, stamp⟩
        ∧ t.appendTo n more
          = { t with changes }.setNode n (.file (old ++ more)) t.now := by
  unfold appendTo
  split
  case isTrue hempty =>
    exact .inl ⟨.inl (List.isEmpty_iff.1 hempty), rfl⟩
  case isFalse =>
    split
    case h_1 old stamp hnode =>
      obtain ⟨changes, hchanged⟩ := t.changed_eq n
      exact .inr ⟨old, stamp, changes, hnode, by rw [hchanged]⟩
    case h_2 hnot => exact .inl ⟨.inr hnot, rfl⟩

/-- Appending leaves the names alone. -/
theorem number?_appendTo (t : Tree) (n : Nat) (more : List UInt8)
    (p : Path) : (t.appendTo n more).number? p = t.number? p := by
  rcases t.appendTo_cases n more with ⟨-, h⟩ | ⟨_, _, _, -, h⟩ <;> rw [h]
  rfl

/-- Appending leaves the other nodes alone. -/
theorem node?_appendTo_of_ne (t : Tree) {n k : Nat} (hne : k ≠ n)
    (more : List UInt8) : (t.appendTo n more).node? k = t.node? k := by
  rcases t.appendTo_cases n more with ⟨-, h⟩ | ⟨_, _, _, -, h⟩ <;> rw [h]
  rw [node?_setNode]
  simp only [if_neg hne]
  exact Option.map_id'

/-- Appending puts bytes behind those of a file. -/
theorem node?_appendTo_self {t : Tree} {n : Nat} {old : List UInt8}
    {stamp : Stamp} (hnode : t.node? n = some ⟨.file old, stamp⟩)
    (more : List UInt8) :
    ∃ stamp', (t.appendTo n more).node? n
      = some ⟨.file (old ++ more), stamp'⟩ := by
  rcases t.appendTo_cases n more with ⟨hwhy, h⟩ | ⟨_, _, _, hfile, h⟩
  · rcases hwhy with rfl | hnot
    · rw [h, List.append_nil]
      exact ⟨stamp, hnode⟩
    · exact absurd hnode (hnot old stamp)
  · rw [hnode] at hfile
    cases hfile
    rw [h, node?_setNode]
    show ∃ _, Option.map _ (t.node? n) = _
    rw [hnode]
    simp

/-- Appending makes no directory, and takes none away. -/
theorem at?_appendTo (t : Tree) (n : Nat) (more : List UInt8) (p : Path) :
    ((t.appendTo n more).at? p).isSome = (t.at? p).isSome
      ∧ (t.appendTo n more).isDirectory p = t.isDirectory p := by
  unfold isDirectory at?
  rw [number?_appendTo]
  cases t.number? p with
  | none => exact ⟨rfl, rfl⟩
  | some k =>
      simp only [Option.bind_some]
      by_cases hk : k = n
      · subst hk
        rcases t.appendTo_cases k more with ⟨-, h⟩ | ⟨_, _, _, hnode, h⟩
        · rw [h]
          exact ⟨rfl, rfl⟩
        · obtain ⟨stamp', hnew⟩ := node?_appendTo_self hnode more
          rw [hnew, hnode]
          exact ⟨rfl, rfl⟩
      · rw [node?_appendTo_of_ne t hk]
        exact ⟨rfl, rfl⟩

/-- Appending leaves every text the name of what it named. -/
theorem resolve_appendTo (t : Tree) (n : Nat) (more : List UInt8)
    (text : String) :
    (t.appendTo n more).resolve text = t.resolve text := by
  have hwalk := walk_congr (t := t) (u := t.appendTo n more)
    (fun p => (t.at?_appendTo n more p).2)
    (fun p => (t.at?_appendTo n more p).1)
  unfold resolve
  simp only [hwalk]

-- =============================================================== files

/-- A text names a file: its number, its bytes and its stamp. -/
def Holds (t : Tree) (text : String) (n : Nat) (bytes : List UInt8)
    (stamp : Stamp) : Prop :=
  t.find text = .ok (n, ⟨.file bytes, stamp⟩)

namespace Holds

variable {t : Tree} {text : String} {n : Nat} {bytes : List UInt8}
  {stamp : Stamp}

/-- The bytes of a file are read. -/
theorem read (h : t.Holds text n bytes stamp) :
    t.read text = .ok bytes := by
  unfold Tree.read
  rw [h]
  rfl

/-- The bytes of a file are those of its node. -/
theorem bytesOf (h : t.Holds text n bytes stamp) : t.bytesOf n = bytes := by
  obtain ⟨p, -, -, hnode⟩ := find_eq_ok.1 h
  unfold Tree.bytesOf
  rw [hnode]

/-- Bytes that are put behind another file. -/
theorem appendTo_of_ne (h : t.Holds text n bytes stamp) {k : Nat}
    (hne : n ≠ k) (more : List UInt8) :
    (t.appendTo k more).Holds text n bytes stamp := by
  obtain ⟨p, hpath, hnumber, hnode⟩ := find_eq_ok.1 h
  refine find_eq_ok.2 ⟨p, ?_, ?_, ?_⟩
  · rw [resolve_appendTo, hpath]
  · rw [number?_appendTo, hnumber]
  · rw [node?_appendTo_of_ne t hne, hnode]

/-- Writing behind the end of a file puts bytes behind its bytes. -/
theorem append (h : t.Holds text n bytes stamp) (more : List UInt8) :
    ∃ u stamp', t.append text more = .ok u
      ∧ u.Holds text n (bytes ++ more) stamp' := by
  obtain ⟨p, hpath, hnumber, hnode⟩ := find_eq_ok.1 h
  obtain ⟨stamp', hnew⟩ := node?_appendTo_self hnode more
  have hopen : t.openWrite text = .ok (n, t) := by
    unfold openWrite
    simp only [hpath, bind, Except.bind, hnumber, hnode]
  refine ⟨t.appendTo n more, stamp', ?_, ?_⟩
  · have hbind : t.append text more = (t.openWrite text).bind fun opened =>
        .ok (opened.2.appendTo opened.1 more) := rfl
    rw [hbind, hopen]
    rfl
  · refine find_eq_ok.2 ⟨p, ?_, ?_, hnew⟩
    · rw [resolve_appendTo, hpath]
    · rw [number?_appendTo, hnumber]

/-- What is written to the log goes behind another file, unless the file
is the log's own. -/
theorem write {log : Log.Control} (h : t.Holds text n bytes stamp)
    (hlog : log.node? ≠ some n) (pieces : List String) :
    (log.write t pieces).Holds text n bytes stamp := by
  unfold Log.Control.write
  split
  case h_1 k hk =>
    exact h.appendTo_of_ne (fun hnk => hlog (hnk ▸ hk)) _
  case h_2 => exact h

/-- Notes leave a file alone that is not the log's own. -/
theorem record {σ : Type} {host : Host σ}
    (h : host.files.Holds text n bytes stamp)
    (hlog : host.log.node? ≠ some n) (notes : List Note) :
    (notes.foldl Host.record host).files.Holds text n bytes stamp := by
  induction notes generalizing host with
  | nil => exact h
  | cons note rest ih =>
      refine ih ?_ hlog
      show (host.log.record host.files host.now note).Holds text n bytes
        stamp
      unfold Log.Control.record
      split
      · exact h.write hlog _
      · exact h

end Holds

end Gatewatch.Disk.Tree
