/-
Watching files for changes, in two ways. Polling compares what the system tells about each file
with what it told before. Notification takes the changes that the system reports for the
directories of the files, which it may refuse to do. Either way a file that is newly watched
counts as changed at first.
-/
import Gatewatch.Disk.Name
import Gatewatch.Disk.Tree
import Gatewatch.Error
import Gatewatch.Note
import Gatewatch.Unicode.Case

namespace Gatewatch.Filter

/-- How files are watched. -/
inductive Backend where
  | auto
  | polling
  | notify
deriving DecidableEq, Repr

namespace Backend

/-- The word of a backend. -/
def text : Backend → String
  | auto => "auto"
  | polling => "polling"
  | notify => "notify"

/-- Reads a backend; letter case does not count. -/
def read (text : String) : Outcome Backend :=
  let word := Unicode.lower text
  if word = "auto" then .ok auto
  else if word = "polling" then .ok polling
  else if ["notify", "inotify", "pyinotify"].contains word then .ok notify
  else .error (.unknownBackend word)

end Backend

/-- What happened to the watched files: which may hold something new, and which are not there.
Both lists are in order. -/
structure Event where
  modified : List String := []
  missing : List String := []
deriving DecidableEq, Repr

namespace Event

/-- Whether there is nothing to tell. -/
def isEmpty (e : Event) : Bool := e.modified.isEmpty && e.missing.isEmpty

/-- The same event with its paths in order. -/
def sorted (e : Event) : Event :=
  { modified := Disk.sortPaths e.modified, missing := Disk.sortPaths e.missing }

end Event

-- ============================================================== polling

/-- What the system tells about a file. -/
structure Mark where
  node : Nat
  size : Nat
  stamp : Disk.Stamp
deriving DecidableEq, Repr

/-- A file that is polled, with what was told about it last. -/
structure Polled where
  path : String
  last : Option Mark := none
deriving DecidableEq

/-- The mark of the file that a path names. -/
def Mark.of (files : Disk.Tree) (path : String) : Except Disk.Fault Mark := do
  let (node, entry) ← files.find path
  return { node, size := (files.bytesOf node).length, stamp := entry.stamp }

/-- Polls one file. -/
def Polled.poll (files : Disk.Tree) (f : Polled) : Noted (Polled × Event) :=
  match Mark.of files f.path with
  | .ok now =>
    if f.last = some now then return (f, {})
    else do
      note .debug (f.path ++ " has been modified")
      return ({ f with last := some now }, { modified := [f.path] })
  | .error e => do
    note .debug ("Unable to stat " ++ f.path ++ ": " ++ e.text)
    return (f, { missing := [f.path] })

/-- Polls files in order. -/
def pollAll (files : Disk.Tree) : List Polled → Noted (List Polled × Event)
  | [] => return ([], {})
  | f :: rest => do
    let (f, e) ← f.poll files
    let (rest, es) ← pollAll files rest
    return (f :: rest, ⟨e.modified ++ es.modified, e.missing ++ es.missing⟩)

-- ========================================================= notification

/-- What reports the changes in directories: why it cannot be set up, if it cannot, and why it does
not report those in a directory, if it does not. -/
structure Notifier where
  refusal? : Option String := none
  refuses : Disk.Path → Option String := fun _ => none

/-- A file that waits for reports about its directory. `fresh` tells that nothing was told
about it yet. -/
structure Awaited where
  path : String
  place : Disk.Path
  fresh : Bool := true
deriving DecidableEq

/-- Splits a path into the place of its directory and its last name. -/
def place (files : Disk.Tree) (path : String) : Outcome Disk.Path :=
  match Disk.fileName? path with
  | none => .error (.noFileName path)
  | some name =>
    let parent := match Disk.parent? path with
      | some p => if p = "" then "." else p
      | none => "."
    match files.resolve parent with
    | .error e => .error (.unresolvable parent e)
    | .ok dir =>
      if (files.at? dir).isSome then .ok (dir ++ [name])
      else .error (.unresolvable parent .notFound)

-- ============================================================= watchers

/-- A watcher. The one for notification knows how many changes of the files it has seen. -/
inductive Watcher where
  | polling (files : List Polled)
  | notify (files : List Awaited) (seen : Nat)

namespace Watcher

/-- The watcher of a backend, where changes are reported. -/
def ofBackend (files : Disk.Tree) : Backend → Noted Watcher
  | .polling => return polling []
  | .notify => return notify [] files.changes.length
  | .auto => do
    note .info "Using notify backend"
    return notify [] files.changes.length

/-- The watcher of a backend. Where no changes are reported, `auto` is polling. -/
def create (files : Disk.Tree) (backend : Backend) (notifier : Notifier := {}) :
    Noted (Outcome Watcher) :=
  match backend, notifier.refusal? with
  | .notify, some reason => return .error (.noNotifier reason)
  | .auto, some reason => do
    note .warn ("Notify backend unavailable (" ++ (Error.noNotifier reason).message
      ++ "), falling back to polling")
    return .ok (polling [])
  | backend, _ => return .ok (← ofBackend files backend)

/-- The name of the way of watching. -/
def name : Watcher → String
  | polling _ => "polling"
  | notify _ _ => "notify"

/-- The text of a place. -/
def placeText (p : Disk.Path) : String := "/" ++ "/".intercalate p

/-- Starts to watch a file. The directory of the file is asked for unless it is watched. -/
def watch (w : Watcher) (files : Disk.Tree) (path : String) (notifier : Notifier := {}) :
    Noted (Outcome Watcher) :=
  match w with
  | polling fs =>
    if fs.any (Disk.samePath ·.path path) then return .ok w
    else return .ok (polling (fs ++ [{ path }]))
  | notify fs seen =>
    match place files path with
    | .error e => return .error e
    | .ok p =>
      let watched := notify (fs.filter (fun f => !Disk.samePath f.path path)
        ++ [{ path, place := p }]) seen
      if fs.any fun f => f.place.dropLast = p.dropLast then return .ok watched
      else match notifier.refuses p.dropLast with
        | some reason => return .error (.unwatchable (placeText p.dropLast) reason)
        | none => do
          note .debug ("Watching directory " ++ placeText p.dropLast)
          return .ok watched

/-- Stops to watch a file. -/
def unwatch (w : Watcher) (path : String) : Watcher :=
  match w with
  | polling fs => polling (fs.filter fun f => !Disk.samePath f.path path)
  | notify fs seen => notify (fs.filter fun f => !Disk.samePath f.path path) seen

/-- What happened since the last time. -/
def poll (w : Watcher) (files : Disk.Tree) : Noted (Watcher × Event) :=
  match w with
  | polling fs => do
    let (fs, e) ← pollAll files fs
    return (polling fs, e.sorted)
  | notify fs seen =>
    let changed := files.changes.take (files.changes.length - seen)
    let present (f : Awaited) : Bool := files.exists? f.path
    let touched (f : Awaited) : Bool := present f && (f.fresh || changed.contains f.place)
    let e : Event :=
      { modified := (fs.filter touched).map Awaited.path
        missing := (fs.filter (!present ·)).map Awaited.path }
    return (notify (fs.map fun f => if touched f then { f with fresh := false } else f)
      files.changes.length, e.sorted)

end Watcher

end Gatewatch.Filter
