/-
The list of bans in force. A source has at most one ban in it, and the list keeps the order in
which bans were set. Another ban of the same source can only move the end of the first one.
-/
import Gatewatch.Ban.Basic

namespace Gatewatch.Ban

/-- What setting a ban came to. -/
inductive Effect where
  /-- The source was not banned before. -/
  | banned
  /-- The end of its ban moved. -/
  | prolonged
  /-- Its ban lasts at least as long. -/
  | alreadyBanned
deriving DecidableEq, Repr

/-- The bans in force, how many were set since the beginning, and how long new ones last. -/
structure Roll where
  bans : List Ban := []
  total : Nat := 0
  banTime : Int := 600

/-- The ban with its end moved to that of another one, if that is later. -/
def extend (old new : Ban) : Ban × Effect :=
  match old.finish?, new.finish? with
  | none, _ => (old, .alreadyBanned)
  | some _, none => ({ old with duration := -1 }, .prolonged)
  | some oldEnd, some newEnd =>
    if oldEnd < newEnd then ({ old with duration := Word.wrap 64 (newEnd - old.start) }, .prolonged)
    else (old, .alreadyBanned)

namespace Roll

/-- The ban of a source. -/
def get? (r : Roll) (source : Net.Address) : Option Ban := r.bans.find? (·.source == source)

/-- Whether a source is banned. -/
def contains (r : Roll) (source : Net.Address) : Bool := r.bans.any (·.source == source)

/-- Sets a ban behind the others, or extends the one that its source has. -/
def setIn (b : Ban) : List Ban → List Ban × Effect
  | [] => ([b], .banned)
  | old :: rest =>
    if old.source = b.source then
      let (longer, effect) := extend old b
      (longer :: rest, effect)
    else
      let (rest, effect) := setIn b rest
      (old :: rest, effect)

/-- Sets a ban. -/
def add (r : Roll) (b : Ban) : Effect × Roll :=
  let (bans, effect) := setIn b r.bans
  (effect, { r with bans, total := if effect = .banned then r.total + 1 else r.total })

/-- Takes the bans away that have ended; they are the first part of the result. -/
def expire (r : Roll) (now : Int) : List Ban × Roll :=
  (r.bans.filter (·.isExpired now), { r with bans := r.bans.filter fun b => !b.isExpired now })

/-- Takes all bans away. -/
def flush (r : Roll) : List Ban × Roll := (r.bans, { r with bans := [] })

/-- Takes the ban of a source away. -/
def remove (r : Roll) (source : Net.Address) : Option (Ban × Roll) :=
  (r.get? source).map fun b =>
    (b, { r with bans := r.bans.eraseP (·.source == source) })

/-- The ban of an offence, for the usual time. -/
def banOf (r : Roll) (o : Offence) (now : Int) : Ban := .ofOffence o now r.banTime

/-- The number of bans. -/
def size (r : Roll) : Nat := r.bans.length

/-- The sources that are banned. -/
def sources (r : Roll) : List Net.Address := r.bans.map Ban.source

end Roll

end Gatewatch.Ban
