/-
Finding the date of a line. A detector tries its templates in order and takes the first one
that matches and stands for an instant; if none does, the first match still marks the text
that looks like a date. Templates that supply dates gain hits, and sorting moves those with
more hits forward.
-/
import Gatewatch.Date.Builtin

namespace Gatewatch.Date

/-- The text that looks like a date, in bytes, and its instant if it has one. -/
structure Found where
  span : Pattern.Span
  time : Option Int
deriving DecidableEq, Repr

/-- Templates in the order of trial. `unsorted` tells that hits came in since the last
sorting. `zone` is the offset of clocks from UTC. -/
structure Detector where
  templates : List Template
  unsorted : Bool := false
  zone : Int := 0

namespace Detector

/-- A detector without templates. -/
def empty (zone : Int) : Detector := { templates := [], zone }

/-- A detector with the built-in templates. -/
def builtin (zone : Int) : Detector := { templates := Builtin.templates, zone }

/-- Adds a template behind the others. -/
def add (d : Detector) (t : Template) : Detector :=
  { d with templates := d.templates ++ [t] }

/-- Puts a user's template in front, in place of an earlier one. -/
def setPattern (d : Detector) (pattern : String) : Noted (Outcome Detector) :=
  match Template.ofFields pattern with
  | .error e => return .error e
  | .ok t => do
    note .debug ("Date pattern " ++ Text.quoted pattern ++ " compiled to " ++ t.pattern.source)
    return .ok { d with templates := t :: d.templates.filter (·.source.isNone) }

/-- The user's pattern and the name of its template. -/
def pattern? (d : Detector) : Option (String × String) :=
  d.templates.findSome? fun t => t.source.map (·, t.name)

/-- Where a trial of templates has got to: those behind, with their hits, and the first
match. -/
structure Trial where
  templates : List Template
  span : Option Pattern.Span
  time : Option Int

/-- Tries templates in order. -/
def attempt (line : List Char) (zone now : Int) (span : Option Pattern.Span) :
    List Template → Noted Trial
  | [] => return ⟨[], span, none⟩
  | t :: rest =>
    match t.pattern.find line with
    | none => do
      let trial ← attempt line zone now span rest
      return { trial with templates := t :: trial.templates }
    | some m => do
      match ← t.time? m line zone now with
      | some time =>
        return ⟨{ t with hits := t.hits + 1 } :: rest, some m.span, some time⟩
      | none =>
        let trial ← attempt line zone now (span <|> some m.span) rest
        return { trial with templates := t :: trial.templates }

/-- Finds the date of a line. -/
def detect (d : Detector) (line : List Char) (now : Int) : Noted (Detector × Option Found) := do
  let trial ← attempt line d.zone now none d.templates
  return ({ d with templates := trial.templates, unsorted := d.unsorted || trial.time.isSome },
    trial.span.map (⟨·, trial.time⟩))

/-- Puts a template behind those with at least as many hits. -/
def insertByHits (t : Template) : List Template → List Template
  | [] => [t]
  | u :: rest => if u.hits < t.hits then t :: u :: rest else u :: insertByHits t rest

/-- Templates with more hits first; those with as many keep their order. -/
def byHits (ts : List Template) : List Template := ts.foldl (fun done t => insertByHits t done) []

/-- Sorts by hits if any came in since the last time. -/
def sort (d : Detector) : Noted Detector :=
  if d.unsorted then do
    note .debug "Sorting the template list"
    return { d with templates := byHits d.templates, unsorted := false }
  else return d

end Detector

end Gatewatch.Date
