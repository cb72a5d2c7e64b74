/-
The addresses, networks and host names that are never banned, in the order in which they
were added. A name is looked up whenever the list is consulted.
-/
import Gatewatch.Net.HostName

namespace Gatewatch.Net

/-- One entry of an ignore list. -/
inductive IgnoreEntry where
  | net (b : Block)
  | host (name : String)
deriving DecidableEq

namespace IgnoreEntry

/-- Reads an entry. -/
def parse (text : String) : IgnoreEntry :=
  match Address.parse text with
  | .block b => net b
  | .other name => host name

/-- The text of an entry. -/
def text : IgnoreEntry → String
  | net b => b.text
  | host name => name

/-- Whether the entry covers an address. -/
def covers (entry : IgnoreEntry) (a : Address) (names : Resolver := numericHosts) : Bool :=
  match entry with
  | net b => (Address.block b).contains a
  | host name => (lookUp name .yes names).addresses.contains a

/-- Reports the lookup of an entry that is a name. -/
def report (entry : IgnoreEntry) (names : Resolver := numericHosts) : Noted Unit :=
  match entry with
  | net _ => return ()
  | host name => (lookUp name .yes names).report name .yes

/-- Whether some entry covers an address; names are looked up until one does. -/
def anyCovers (a : Address) (names : Resolver := numericHosts) : List IgnoreEntry → Noted Bool
  | [] => return false
  | entry :: rest => do
    entry.report names
    if entry.covers a names then return true else anyCovers a names rest

@[simp] theorem value_anyCovers (a : Address) (names : Resolver) (entries : List IgnoreEntry) :
    (anyCovers a names entries).value = entries.any (·.covers a names) := by
  induction entries with
  | nil => rfl
  | cons entry rest ih =>
    cases h : entry.covers a names <;> simp [anyCovers, h, ih]

end IgnoreEntry

/-- Entries without repetition, in order of addition. -/
structure IgnoreList where
  entries : List IgnoreEntry := []
deriving DecidableEq

namespace IgnoreList

/-- Adds an entry behind the others, unless it is there; the flag tells which. -/
def add (l : IgnoreList) (text : String) : IgnoreList × Bool :=
  let entry := IgnoreEntry.parse text
  if l.entries.contains entry then (l, false) else (⟨l.entries ++ [entry]⟩, true)

/-- Removes an entry; the flag tells whether it was there. -/
def remove (l : IgnoreList) (text : String) : IgnoreList × Bool :=
  let entry := IgnoreEntry.parse text
  (⟨l.entries.filter (· != entry)⟩, l.entries.contains entry)

/-- The texts of the entries. -/
def texts (l : IgnoreList) : List String := l.entries.map IgnoreEntry.text

/-- Whether some entry covers an address. -/
def ignores (l : IgnoreList) (a : Address) (names : Resolver := numericHosts) : Bool :=
  l.entries.any (·.covers a names)

/-- The same, with reports of the lookups. -/
def consult (l : IgnoreList) (a : Address) (names : Resolver := numericHosts) : Noted Bool :=
  IgnoreEntry.anyCovers a names l.entries

theorem value_consult (l : IgnoreList) (a : Address) (names : Resolver) :
    (l.consult a names).value = l.ignores a names :=
  IgnoreEntry.value_anyCovers a names l.entries

end IgnoreList

end Gatewatch.Net
