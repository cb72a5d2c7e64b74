/-
Filters. A filter reads the new lines of its files, finds the date of each line and takes it
out, and looks for failures in what is left. A failure yields an offence per address of its
host, which is counted unless it is too old or its source is ignored.
-/
import Gatewatch.Action.Command
import Gatewatch.Date.Detector
import Gatewatch.Filter.Lines
import Gatewatch.Filter.LogFile
import Gatewatch.Filter.Patterns
import Gatewatch.Filter.Watcher
import Gatewatch.Json.Writer
import Gatewatch.Net.IgnoreList
import Gatewatch.Offence.Table

namespace Gatewatch

open Gatewatch.Filter Net in
/-- A filter. `missing` counts for a file how many times in a row it was not there; `asks`
tells that the filter may run the ignore command. -/
structure Filter where
  jail : String
  patterns : Patterns := {}
  detector : Date.Detector
  table : Offence.Table := {}
  ignored : IgnoreList := {}
  useDns : UseDns := .warn
  maxLines : Nat := 1
  buffer : List (List Char) := []
  files : List LogFile := []
  missing : List (String × Nat) := []
  charset : Text.Charset := Text.Charset.utf8
  ignoreCommand : String := ""
  asks : Bool := true
  watcher : Watcher

namespace Filter

open Net (Address UseDns)

/-- A line about the jail. -/
def about (f : Filter) (text : String) : String := "[" ++ f.jail ++ "] " ++ text

-- =========================================================== log files

/-- The paths of the files. -/
def paths (f : Filter) : List String := f.files.map LogFile.path

/-- Whether a path is one of the files. -/
def hasPath (f : Filter) (path : String) : Bool := f.files.any (Disk.samePath ·.path path)

/-- Adds a file behind the others. -/
def addPath (f : Filter) (files : Disk.Tree) (path : String) (tail : Bool)
    (notifier : Notifier := {}) : Noted (Outcome Filter) :=
  if f.hasPath path then return .error (.duplicatePath path)
  else match LogFile.openAt files path tail with
    | .error e => return .error e
    | .ok file => do
      match ← f.watcher.watch files path notifier with
      | .error e => return .error e
      | .ok watcher =>
        note .info (f.about ("Added logfile = " ++ path))
        return .ok { f with watcher, files := f.files ++ [file.setCharset f.charset] }

/-- Takes a file away. -/
def removePath (f : Filter) (path : String) : Noted (Outcome Filter) :=
  if f.hasPath path then do
    note .info (f.about ("Removed logfile = " ++ path))
    return .ok { f with
      files := f.files.filter fun file => !Disk.samePath file.path path
      watcher := f.watcher.unwatch path
      missing := f.missing.filter fun m => !Disk.samePath m.1 path }
  else return .error (.foreignPath path)

-- ============================================================ settings

/-- Adds an entry to the ignore list. -/
def addIgnored (f : Filter) (entry : String) : Noted Filter := do
  let (ignored, new) := f.ignored.add entry
  if new then note .debug (f.about ("Add " ++ entry ++ " to ignore list"))
  return { f with ignored }

/-- Takes an entry from the ignore list. -/
def removeIgnored (f : Filter) (entry : String) : Noted (Outcome Filter) := do
  let (ignored, found) := f.ignored.remove entry
  if found then
    note .debug (f.about ("Remove " ++ entry ++ " from ignore list"))
    return .ok { f with ignored }
  else return .error (.notIgnored entry)

/-- Sets the command that is asked about each source. -/
def setIgnoreCommand (f : Filter) (command : String) : Noted Filter := do
  note .info (f.about ("Set ignorecommand = " ++ command))
  return { f with ignoreCommand := command }

/-- Sets the length of the window. -/
def setFindTime (f : Filter) (secs : Int) : Noted Filter := do
  note .info (f.about ("Set findtime = " ++ toString secs))
  return { f with table := { f.table with findTime := secs } }

/-- Sets how many attempts a ban takes. -/
def setMaxRetry (f : Filter) (n : Nat) : Noted Filter := do
  note .info (f.about ("Set maxRetry = " ++ toString n))
  return { f with table := { f.table with maxRetry := n } }

/-- A text with the small letters of ASCII in place of the capitals. -/
def smallAscii (text : String) : String := text.map Char.toLower

/-- The charset of a label; `auto` stands for UTF-8. Lines end at single bytes, so the charset
has to keep those of ASCII. -/
def charsetOf (label : String) : Outcome Text.Charset :=
  let found := if smallAscii label = "auto" then some Text.Charset.utf8
    else Text.Charset.ofLabel? (Text.trim label)
  match found with
  | none => .error (.unknownEncoding label)
  | some charset =>
    if charset.isAsciiCompatible then .ok charset else .error (.wideEncoding charset.name)

/-- Sets the charset of all files, those added later too. -/
def setCharset (f : Filter) (label : String) : Noted (Outcome Filter) :=
  match charsetOf label with
  | .error e => return .error e
  | .ok charset => do
    note .info (f.about ("Set jail log file encoding to " ++ charset.name))
    return .ok { f with charset, files := f.files.map (·.setCharset charset) }

/-- Sets the user's date pattern. -/
def setDatePattern (f : Filter) (pattern : String) : Noted (Outcome Filter) := do
  match ← f.detector.setPattern pattern with
  | .error e => return .error e
  | .ok detector =>
    note .info (f.about ("Date pattern set to " ++ Text.quoted pattern))
    return .ok { f with detector }

/-- Sets how many lines the buffer keeps. -/
def setMaxLines (f : Filter) (n : Nat) : Noted (Outcome Filter) :=
  if n = 0 then return .error .noLines
  else do
    note .info (f.about ("Set maxLines = " ++ toString n))
    return .ok { f with maxLines := n, buffer := lastLines n f.buffer }

-- =============================================================== lines

/-- Looks for a failure in the buffer with one more line, and takes out what it touches. -/
def findIn (f : Filter) (part : List Char) : List (List Char) × Option Failure :=
  let buffer := lastLines f.maxLines (f.buffer ++ [part])
  (buffer, f.patterns.findFailure (joinLines buffer))

/-- The offences that a line tells of. -/
def processLine (f : Filter) (line : String) (now : Int)
    (names : Net.Resolver := Net.numericHosts) : Noted (Filter × List Offence) := do
  let cs := line.toList
  let (detector, found) ← f.detector.detect cs now
  let f := { f with detector }
  let part := match found with
    | some d => cutOut d.span cs
    | none => cs
  if f.patterns.ignores part then return (f, [])
  let (buffer, failure) := f.findIn part
  match failure with
  | none => return ({ f with buffer }, [])
  | some failure =>
    match found.bind (·.time) with
    | none =>
      note .debug (f.about ("Found a match for " ++ Text.quoted line
        ++ " but no valid date/time found"))
      return ({ f with buffer }, [])
    | some time =>
      let sources ← Net.textToAddresses failure.host f.useDns names
      return ({ f with buffer := removeTouched failure.span 0 buffer },
        sources.map fun source => { source, time, lines := [line] })

/-- The ignore command for a source. -/
def ignoreQuestion (f : Filter) (source : Address) : String :=
  Text.replaceAll f.ignoreCommand "<ip>" source.text

variable {σ : Type} [Shell σ]

/-- Whether a source is ignored: by the list, or because the ignore command succeeds. -/
def isIgnored (f : Filter) (source : Address) : Work σ Bool := do
  if ← Work.ofNoted (f.ignored.consult source (← Work.names)) then return true
  if f.ignoreCommand.isEmpty || !f.asks then return false
  Action.ask (f.ignoreQuestion source)

/-- Counts the offences of a line that are neither too old nor ignored; the number tells how
many those are. -/
def countAll (f : Filter) (horizon : Int) : List Offence → Work σ (Filter × Nat)
  | [] => return (f, 0)
  | o :: rest => do
    if o.time < horizon then
      Work.note .debug (f.about ("Ignore line since time " ++ toString o.time ++ " < "
        ++ toString horizon))
      countAll f horizon rest
    else if ← f.isIgnored o.source then
      Work.note .info (f.about ("Ignore " ++ o.source.text))
      countAll f horizon rest
    else
      Work.note .info (f.about ("Found " ++ o.source.text))
      let (f, n) ← countAll { f with table := f.table.add o } horizon rest
      return (f, n + 1)

/-- Processes a line and counts its offences. -/
def addLine (f : Filter) (line : String) : Work σ (Filter × Nat) := do
  let now ← Work.now
  let (g, offences) ← Work.ofNoted (f.processLine line now (← Work.names))
  g.countAll (Offence.horizon now f.table.findTime) offences

/-- Processes lines in order. -/
def addLines (f : Filter) : List String → Work σ (Filter × Nat)
  | [] => return (f, 0)
  | line :: rest => do
    let (f, n) ← f.addLine line
    let (f, m) ← addLines f rest
    return (f, n + m)

/-- Whether a file is to be read: all are when no paths are given. -/
def isWanted (paths : List String) (path : String) : Bool :=
  paths.isEmpty || paths.any (Disk.samePath path)

/-- Reads the new lines of files; a file that cannot be read is reported. -/
def readFiles (f : Filter) (tree : Disk.Tree) (decoders : Text.Decoders) (paths : List String) :
    List LogFile → Noted (List LogFile × List String)
  | [] => return ([], [])
  | file :: rest => do
    if isWanted paths file.path then
      match ← file.readLines tree decoders with
      | .ok (file, lines) =>
        let (rest, more) ← readFiles f tree decoders paths rest
        return (file :: rest, lines ++ more)
      | .error e =>
        note .warn (f.about e.message)
        let (rest, more) ← readFiles f tree decoders paths rest
        return (file :: rest, more)
    else
      let (rest, more) ← readFiles f tree decoders paths rest
      return (file :: rest, more)

/-- Reads and processes the new lines of the files at some paths, or of all files. -/
def processFiles (f : Filter) (paths : List String) : Work σ (Filter × Nat) := do
  let tree ← Work.files
  let (files, lines) ← Work.ofNoted (f.readFiles tree (← Work.decoders) paths f.files)
  { f with files }.addLines lines

-- ================================================================ bans

/-- Counts attempts enough for a ban. -/
def addBanned (f : Filter) (source : Address) (now : Int) : Outcome Filter :=
  if source.isValid then
    .ok { f with table :=
      f.table.add { source, time := now, attempts := max f.table.maxRetry 1 } }
  else .error (.invalidAddress source.text)

/-- Hands out the offences that are due, the oldest first. -/
def drain (f : Filter) : Noted (Filter × List Offence) :=
  let (due, table) := f.table.drain
  ⟨({ f with table }, due), due.map fun o =>
    ⟨.debug, f.about (o.source.text ++ " reached the retry threshold")⟩⟩

/-- How many times in a row a file may be missing, less one. -/
def maxMissing : Nat := 3

/-- How many times in a row a file was missing. -/
def missesOf (f : Filter) (path : String) : Nat :=
  match f.missing.find? (Disk.samePath ·.1 path) with
  | some (_, n) => n
  | none => 0

/-- Sets how many times in a row a file was missing. -/
def setMisses (f : Filter) (path : String) (n : Option Nat) : Filter :=
  let others := f.missing.filter fun m => !Disk.samePath m.1 path
  { f with missing := match n with
    | some n => others ++ [(path, n)]
    | none => others }

/-- Counts for some paths whether an event reports them missing. The flag tells whether one has
been missing too many times in a row; its count starts again. -/
def noteMissing (e : Event) : List String → Filter → Noted (Filter × Bool)
  | [], f => return (f, false)
  | path :: rest, f => do
    if e.missing.any (Disk.samePath path) then
      let n := f.missesOf path + 1
      if maxMissing ≤ n then
        note .warn (f.about ("Too many read errors on " ++ path ++ "; setting the jail idle"))
        let (f, _) ← noteMissing e rest (f.setMisses path (some 0))
        return (f, true)
      else noteMissing e rest (f.setMisses path (some n))
    else noteMissing e rest (f.setMisses path none)

/-- Forgets stale entries and sorts the date templates, as after every look at the files. -/
def tidy (f : Filter) (now : Int) : Noted Filter := do
  let detector ← f.detector.sort
  return { f with table := f.table.cleanup now, detector }

/-- The state of the filter for a reader. -/
def status (f : Filter) : Json.Value :=
  .arr [.arr [.str "Currently failed", .ofNat f.table.size],
    .arr [.str "Total failed", .ofNat f.table.total],
    .arr [.str "File list", .strings f.paths]]

end Filter

end Gatewatch
