/-
The files that the program can see. Names lead to nodes, and a node keeps its content while
it has a name or is held open, so a file that was renamed or removed is still the same file
to whoever holds its node. Every change of a content leaves a fresh stamp on the node and an
entry in the list of changes.

A path is the list of names from the root; texts of paths that do not start with a slash are
taken from the working directory.
-/
import Gatewatch.Disk.Fault
import Gatewatch.Text.Split
import Gatewatch.Text.Utf8

namespace Gatewatch.Disk

/-- The names from the root. -/
abbrev Path := List String

/-- What a node is. -/
inductive Content where
  | file (bytes : List UInt8)
  | directory
  | socket
  /-- Takes everything and yields nothing. -/
  | sink
deriving DecidableEq

/-- When a node was last changed: at a moment of its own, or at a time that was set. -/
inductive Stamp where
  | moment (n : Nat)
  | set (secs : Int)
deriving DecidableEq, Repr

/-- A node. -/
structure Node where
  content : Content
  stamp : Stamp
deriving DecidableEq

/-- The names, the nodes by number, the number of the next node, and the paths at which
something changed, the latest first. -/
structure Tree where
  names : List (Path × Nat)
  nodes : List (Nat × Node)
  next : Nat
  changes : List Path

namespace Tree

/-- The directory that relative paths start from. -/
def working : Path := ["work"]

/-- The tree before anything was written: some directories of the system, and the sink. -/
def initial : Tree :=
  let directories : List Path :=
    [[], working, ["dev"], ["etc"], ["tmp"], ["usr"], ["var"], ["var", "log"], ["var", "run"]]
  let entries := directories.zipIdx.map fun (p, i) => (p, i)
  let sink := directories.length
  { names := entries ++ [(["dev", "null"], sink)]
    nodes := entries.map (fun (_, i) => (i, ⟨.directory, .moment 0⟩))
      ++ [(sink, ⟨.sink, .moment 0⟩)]
    next := sink + 1
    changes := [] }

-- ============================================================= looking

/-- The number of the node at a path. -/
def number? (t : Tree) (p : Path) : Option Nat := (t.names.find? (·.1 == p)).map (·.2)

/-- The node with a number. -/
def node? (t : Tree) (n : Nat) : Option Node := (t.nodes.find? (·.1 == n)).map (·.2)

/-- The node at a path. -/
def at? (t : Tree) (p : Path) : Option Node := (t.number? p).bind t.node?

/-- Whether there is a directory at a path. -/
def isDirectory (t : Tree) (p : Path) : Bool :=
  match t.at? p with
  | some ⟨.directory, _⟩ => true
  | _ => false

/-- Follows names from a directory. All but the last must lead to directories; the last need
not lead anywhere. -/
def walk (t : Tree) : Path → List String → Except Fault Path
  | at', [] => .ok at'
  | at', name :: rest =>
    if !t.isDirectory at' then
      .error (if (t.at? at').isSome then .notDirectory else .notFound)
    else if name = "" || name = "." then walk t at' rest
    else if name = ".." then walk t at'.dropLast rest
    else if 255 < name.utf8ByteSize then .error .nameTooLong
    else walk t (at' ++ [name]) rest

/-- The path that a text names. -/
def resolve (t : Tree) (text : String) : Except Fault Path :=
  if text = "" then .error .notFound
  else if text.toList.contains '\x00' then .error .nullInName
  else
    let names := Text.split '/' text
    if names.head? = some "" then t.walk [] names else t.walk working names

/-- The number and the node that a text names. -/
def find (t : Tree) (text : String) : Except Fault (Nat × Node) := do
  let p ← t.resolve text
  match t.number? p with
  | none => .error .notFound
  | some n => match t.node? n with
    | some node => .ok (n, node)
    | none => .error .notFound

/-- Whether a text names anything. -/
def exists? (t : Tree) (text : String) : Bool := (t.find text).toOption.isSome

/-- The bytes of the file that a text names. -/
def read (t : Tree) (text : String) : Except Fault (List UInt8) := do
  match (← t.find text).2.content with
  | .file bytes => .ok bytes
  | .directory => .error .isDirectory
  | .sink => .ok []
  | .socket => .error .noDevice

/-- The bytes of the file with a number. -/
def bytesOf (t : Tree) (n : Nat) : List UInt8 :=
  match t.node? n with
  | some ⟨.file bytes, _⟩ => bytes
  | _ => []

-- ============================================================ changing

/-- Notes that something changed at a path. -/
def touchChange (t : Tree) (p : Path) : Tree := { t with changes := p :: t.changes }

/-- The path that leads to a node, if it still has one. -/
def pathOf? (t : Tree) (n : Nat) : Option Path := (t.names.find? (·.2 == n)).map (·.1)

/-- Notes a change of a node at its path, if it still has one. -/
def changed (t : Tree) (n : Nat) : Tree :=
  match t.pathOf? n with
  | some p => t.touchChange p
  | none => t

/-- Gives a node a content and a stamp. -/
def setNode (t : Tree) (n : Nat) (content : Content) (stamp : Stamp) : Tree :=
  { t with nodes := t.nodes.map fun (k, node) => (k, if k = n then ⟨content, stamp⟩ else node) }

/-- The stamp of the moment. -/
def now (t : Tree) : Stamp := .moment (t.changes.length + t.next)

/-- Makes a node at a path that is free; the result is its number. -/
def create (t : Tree) (p : Path) (content : Content) : Nat × Tree :=
  (t.next, { t with
    names := t.names ++ [(p, t.next)]
    nodes := t.nodes ++ [(t.next, ⟨content, t.now⟩)]
    next := t.next + 1
    changes := p :: t.changes })

/-- Puts bytes behind those of a node that is open. -/
def appendTo (t : Tree) (n : Nat) (bytes : List UInt8) : Tree :=
  if bytes.isEmpty then t
  else match t.node? n with
    | some ⟨.file old, _⟩ => (t.changed n).setNode n (.file (old ++ bytes)) t.now
    | _ => t

/-- Replaces the bytes of a node that is open. -/
def overwrite (t : Tree) (n : Nat) (bytes : List UInt8) : Tree :=
  match t.node? n with
  | some ⟨.file _, _⟩ => (t.changed n).setNode n (.file bytes) t.now
  | _ => t

/-- Opens a file for writing, and makes it if there is none; the result is its number. -/
def openWrite (t : Tree) (text : String) : Except Fault (Nat × Tree) := do
  let p ← t.resolve text
  match t.number? p with
  | some n => match t.node? n with
    | some ⟨.directory, _⟩ => .error .isDirectory
    | some ⟨.socket, _⟩ => .error .noDevice
    | _ => .ok (n, t)
  | none =>
    if text.toList.getLast? == some '/' then .error .isDirectory
    else if t.isDirectory p.dropLast then .ok (t.create p (.file []))
    else .error .notFound

/-- Writes a file from its start. -/
def write (t : Tree) (text : String) (bytes : List UInt8) : Except Fault Tree := do
  let (n, t) ← t.openWrite text
  .ok (t.overwrite n bytes)

/-- Writes behind the end of a file. -/
def append (t : Tree) (text : String) (bytes : List UInt8) : Except Fault Tree := do
  let (n, t) ← t.openWrite text
  .ok (t.appendTo n bytes)

/-- Takes a name away. -/
def dropName (t : Tree) (p : Path) : Tree :=
  { t with names := t.names.filter (·.1 != p), changes := p :: t.changes }

/-- Whether a directory has entries. -/
def hasEntries (t : Tree) (p : Path) : Bool :=
  t.names.any fun (q, _) => p.isPrefixOf q && q != p

/-- Removes a file. -/
def remove (t : Tree) (text : String) : Except Fault Tree := do
  let p ← t.resolve text
  match t.at? p with
  | none => .error .notFound
  | some ⟨.directory, _⟩ => .error .isDirectory
  | some _ => .ok (t.dropName p)

/-- Moves what is at one path to another, in place of a file there. -/
def rename (t : Tree) (source target : String) : Except Fault Tree := do
  let p ← t.resolve source
  let q ← t.resolve target
  match t.at? p with
  | none => .error .notFound
  | some node =>
    if !t.isDirectory q.dropLast then .error .notFound
    else if p = q then .ok t
    else if node.content = .directory then
      if p.isPrefixOf q then .error .invalid
      else match t.at? q with
        | some ⟨.directory, _⟩ =>
          if t.hasEntries q then .error .notEmpty else move p q
        | some _ => .error .notDirectory
        | none => move p q
    else match t.at? q with
      | some ⟨.directory, _⟩ => .error .isDirectory
      | _ => move p q
where
  /-- Gives the names at and below `p` the place of `q`. -/
  move (p q : Path) : Except Fault Tree :=
    let kept := t.names.filter (·.1 != q)
    .ok { t with
      names := kept.map fun (r, n) =>
        if p.isPrefixOf r then (q ++ r.drop p.length, n) else (r, n)
      changes := q :: p :: t.changes }

/-- Makes a directory. -/
def makeDirectory (t : Tree) (text : String) : Except Fault Tree := do
  let p ← t.resolve text
  if (t.at? p).isSome then .error .alreadyExists
  else if t.isDirectory p.dropLast then .ok (t.create p .directory).2
  else .error .notFound

/-- Makes the directories of a path that are missing, from the top. -/
def makeAll (t : Tree) (base : Path) : List String → Except Fault Tree
  | [] => .ok t
  | name :: rest =>
    if name = "" || name = "." then makeAll t base rest
    else if name = ".." then makeAll t base.dropLast rest
    else
      let p := base ++ [name]
      match t.at? p with
      | some ⟨.directory, _⟩ => makeAll t p rest
      | some _ => .error (if rest.isEmpty then .alreadyExists else .notDirectory)
      | none => makeAll (t.create p .directory).2 p rest

/-- Makes a directory and those above it. -/
def makeDirectories (t : Tree) (text : String) : Except Fault Tree :=
  let names := Text.split '/' text
  if names.head? = some "" then t.makeAll [] names else t.makeAll working names

/-- The number of bytes that the name of a socket stays below. -/
def socketNameBound : Nat := 108

/-- Makes a socket; the result is its number. -/
def makeSocket (t : Tree) (text : String) : Except Fault (Nat × Tree) := do
  if socketNameBound ≤ text.utf8ByteSize then .error .longSocketName
  let p ← t.resolve text
  if (t.at? p).isSome then .error .inUse
  else if t.isDirectory p.dropLast then .ok (t.create p .socket)
  else .error .notFound

/-- The number of the socket that a text names. -/
def findSocket (t : Tree) (text : String) : Except Fault Nat := do
  if socketNameBound ≤ text.utf8ByteSize then .error .longSocketName
  let (n, node) ← t.find text
  if node.content = .socket then .ok n else .error .refused

/-- Makes the directories above a path that are missing. -/
def makeParents (t : Tree) : Option String → Except Fault Tree
  | none | some "" => .ok t
  | some directory => t.makeDirectories directory

/-- Sets the time of the last change. -/
def setTime (t : Tree) (text : String) (secs : Int) : Except Fault Tree := do
  let (n, node) ← t.find text
  .ok ((t.changed n).setNode n node.content (.set secs))

end Tree

end Gatewatch.Disk
