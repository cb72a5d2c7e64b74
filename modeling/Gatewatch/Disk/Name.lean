/-
Paths as texts. Two texts name the same path when they differ only in repeated slashes, in
single points between slashes, and in slashes at the end. Paths are shown as they were written.
-/
import Gatewatch.Text.Split

namespace Gatewatch.Disk

/-- The parts of a path: whether it starts at the root, and its names. A point counts as a name
only where a relative path starts with it. -/
structure Parts where
  rooted : Bool
  names : List String
deriving DecidableEq, Repr

/-- The parts of a path. -/
def parts (path : String) : Parts :=
  match Text.split '/' path with
  | "" :: rest => { rooted := path != "", names := rest.filter fun n => n != "" && n != "." }
  | first :: rest =>
    { rooted := false, names := first :: rest.filter fun n => n != "" && n != "." }
  | [] => { rooted := false, names := [] }

/-- Whether two texts name the same path. -/
def samePath (a b : String) : Bool := parts a == parts b

/-- The order of paths: those from the root first, then name by name. -/
def pathBefore (a b : String) : Bool :=
  let p := parts a
  let q := parts b
  if p.rooted != q.rooted then p.rooted
  else
    let p := if p.names.head? = some "." then "" :: p.names.drop 1 else p.names
    let q := if q.names.head? = some "." then "" :: q.names.drop 1 else q.names
    p < q

/-- Puts a path into sorted ones, unless it is among them. -/
def insertPath (path : String) : List String → List String
  | [] => [path]
  | p :: rest =>
    if samePath path p then p :: rest
    else if pathBefore path p then path :: p :: rest
    else p :: insertPath path rest

/-- Paths in order, each once. -/
def sortPaths (paths : List String) : List String := paths.foldl (fun ps p => insertPath p ps) []

/-- The last name of a path, unless that is `..` or there is none. -/
def fileName? (path : String) : Option String :=
  match (parts path).names.getLast? with
  | some name => if name = ".." || name = "." || name = "" then none else some name
  | none => none

/-- The text without what is behind its last name. -/
def trimPath (cs : List Char) : List Char :=
  let rec strip : Nat → List Char → List Char
    | 0, rev => rev
    | fuel + 1, rev => match rev with
      | '/' :: rest => strip fuel rest
      | '.' :: '/' :: rest => strip fuel rest
      | rev => rev
  (strip cs.length cs.reverse).reverse

/-- The path without its last name; a path without names has none. -/
def parent? (path : String) : Option String :=
  if (parts path).names.isEmpty then none
  else
    let trimmed := trimPath path.toList
    let front := (trimmed.reverse.dropWhile (· != '/')).reverse
    let body := trimPath front
    some (if body.isEmpty && !front.isEmpty then "/" else String.ofList body)

end Gatewatch.Disk
