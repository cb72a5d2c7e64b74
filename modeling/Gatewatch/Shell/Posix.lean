/-
A shell that runs commands, as POSIX describes them. It has no more commands than those it
knows itself. Running is bounded by a number of steps; what takes more counts as not coming
to an end.
-/
import Gatewatch.Host
import Gatewatch.Shell.Arithmetic
import Gatewatch.Shell.Builtin
import Gatewatch.Shell.Reader

namespace Gatewatch

namespace Shell

open Run (print complain complainAt)

/-- What a part of a word becomes. -/
inductive Piece where
  /-- Text that stays together; one that is quoted counts even when it is empty. -/
  | whole (cs : Octets)
  /-- Text that is split at blanks. -/
  | split (cs : Octets)
  /-- The end of a field. -/
  | boundary

/-- Whether a character separates fields. -/
def isBlank (c : Char) : Bool := c = ' ' || c = '\t' || c = '\n'

/-- The fields that pieces make, behind a field that has begun if there is one. -/
def fields (begun : Option Octets) : List Piece → List Octets
  | [] => begun.toList
  | .whole cs :: rest => fields (some (begun.getD [] ++ cs)) rest
  | .boundary :: rest => begun.toList ++ fields none rest
  | .split cs :: rest =>
    let rec cut (begun : Option Octets) : Octets → List Octets × Option Octets
      | [] => ([], begun)
      | c :: cs =>
        if isBlank c then
          let (done, last) := cut none cs
          (begun.toList ++ done, last)
        else cut (some (begun.getD [] ++ [c])) cs
    let (done, last) := cut begun cs
    done ++ fields last rest

/-- The text of pieces that are not split. -/
def flat (pieces : List Piece) : Octets :=
  pieces.flatMap fun p => match p with
    | .whole cs | .split cs => cs
    | .boundary => [' ']

/-- Whether a text fits a pattern of characters, `?` and `*`. -/
def fits : Nat → Octets → Octets → Bool
  | 0, _, _ => false
  | _, [], [] => true
  | fuel + 1, '*' :: ps, cs =>
    fits fuel ps cs || (match cs with
      | _ :: rest => fits fuel ('*' :: ps) rest
      | [] => false)
  | fuel + 1, '?' :: ps, _ :: cs => fits fuel ps cs
  | fuel + 1, p :: ps, c :: cs => p = c && fits fuel ps cs
  | _, _, _ => false

/-- The value of a parameter, if it has one. -/
def parameter? (s : Session) (name : Octets) : Option Octets :=
  match name with
  | ['?'] => some (Octets.ofNat s.status)
  | ['$'] => some (Octets.ofNat s.pid)
  | ['!'] => s.jobs.getLast?.map fun j => Octets.ofNat j.pid
  | ['#'] => some (Octets.ofNat s.arguments.length)
  | ['-'] => some (if s.strict then ['e'] else [])
  | ['0'] => some s.title
  | ['@'] | ['*'] =>
    if s.arguments.isEmpty then none else some ([' '].intercalate s.arguments)
  | [c] => if c.isDigit then s.arguments[c.toNat - 49]? else s.valueOf? name
  | _ => s.valueOf? name

/-- The reason why a file cannot be made. -/
def makingFault : Disk.Fault → String
  | .notFound | .notDirectory => "Directory nonexistent"
  | e => Builtin.reason e

/-- The reason why a file cannot be opened. -/
def openingFault : Disk.Fault → String
  | .notFound | .notDirectory => "No such file"
  | e => Builtin.reason e

/-- The sink that a word after `>&` names. -/
def sinkOf (s : Session) : Octets → Sink
  | ['1'] => s.out
  | ['2'] => s.err
  | _ => .nowhere

/-- Redirects a stream; `false` when that fails. -/
def redirect (line : Nat) (r : Redirection) (target : Octets) : Run Bool := do
  let s ← get
  let name := Octets.toText target
  let put (sink : Sink) (s : Session) : Session :=
    if r.stream = 2 then { s with err := sink }
    else if r.stream = 1 then { s with out := sink } else s
  let make (change : Except Disk.Fault Disk.Tree) : Run Bool := do
    match change.bind fun t => t.openWrite (s.path target) with
    | .ok (node, files) =>
      set (put (.node node) { s with files })
      return true
    | .error e =>
      complainAt line ("cannot create " ++ name ++ ": " ++ makingFault e)
      return false
  match r.direction with
  | .into => make (s.files.write (s.path target) [])
  | .behind => make (.ok s.files)
  | .duplicate =>
    if r.stream != 0 then set (put (sinkOf s target) s)
    return true
  | .fromFile =>
    match s.files.read (s.path target) with
    | .ok bytes =>
      set { s with input := Octets.ofBytes bytes }
      return true
    | .error e =>
      complainAt line ("cannot open " ++ name ++ ": " ++ openingFault e)
      return false

/-- Does work with streams and input that are set back behind it. -/
def withStreams (w : Run Unit) : Run Unit := do
  let s ← get
  let back (t : Session) : Session := { t with out := s.out, err := s.err, input := s.input }
  tryCatch w fun stop => do
    modify back
    throw stop
  modify back

/-- Sets the status. -/
def setStatus (status : Nat) : Run Unit := modify ({ · with status })

/-- Ends a shell whose commands have to succeed, if the last one did not. -/
def checkStatus : Run Unit := do
  let s ← get
  if s.strict && s.conditions = 0 && s.status != 0 then throw (.exit s.status)

/-- Says that a signal ended a command. -/
def complainOfDeath : Nat → Run Unit
  | 129 => complain "Hangup"
  | 137 => complain "Killed"
  | 143 => complain "Terminated"
  | _ => return ()

/-- Where the two streams of a command go that has some redirections. -/
def streamsOf (out err : Sink) : List Redirection → List Sink
  | [] => [out, err]
  | r :: rest =>
    let sink : Sink := match r.direction, literal? r.target with
      | .duplicate, some ['1'] => out
      | .duplicate, some ['2'] => err
      | _, _ => .nowhere
    if r.stream = 1 then streamsOf sink err rest
    else if r.stream = 2 then streamsOf out sink rest
    else streamsOf out err rest

/-- The names by which the shell itself is known. -/
def shellNames : List String := ["sh", "/bin/sh", "dash"]

mutual

/-- What parts of words become. -/
def expand : Nat → List Part → Run (List Piece)
  | 0, _ => Run.forever
  | _, [] => return []
  | fuel + 1, part :: rest => do
    let put (quoted : Bool) (cs : Octets) : Piece := if quoted then .whole cs else .split cs
    let pieces ← match part with
      | .text _ cs => pure [.whole cs]
      | .output quoted source => do
        let (status, text) ← Run.captured (runLines fuel { rest := source })
        setStatus status
        pure [put quoted (text.reverse.dropWhile (· = '\n')).reverse]
      | .sum quoted expression => do
        let text := flat (← expand fuel expression)
        let s ← get
        match Arithmetic.evaluate (fun name => (parameter? s name).getD []) text with
        | .ok n => pure [put quoted (Octets.ofInt n)]
        | .error e =>
          complainAt 1 (e.text text)
          throw (.exit 2)
      | .parameter quoted name expansion word => do
        let s ← get
        let value := parameter? s name
        let given (colon : Bool) : Bool := match value with
          | none => false
          | some cs => !(colon && cs.isEmpty)
        let plain : List Piece :=
          if quoted && name = ['@'] then
            (s.arguments.map Piece.whole).intersperse .boundary
          else [put quoted (value.getD [])]
        match expansion with
        | .value => pure plain
        | .length => pure [put quoted (Octets.ofNat (value.getD []).length)]
        | .otherwise colon => if given colon then pure plain else expand fuel word
        | .instead colon => if given colon then expand fuel word else pure []
        | .assign colon =>
          if given colon then pure plain
          else
            let text := flat (← expand fuel word)
            modify (·.setVariable name text)
            pure [put quoted text]
    return pieces ++ (← expand fuel rest)

/-- The fields of words. -/
def expandWords : Nat → List Word → Run (List Octets)
  | 0, _ => Run.forever
  | _, [] => return []
  | fuel + 1, w :: rest => do
    let fs := fields none (← expand fuel w)
    return fs ++ (← expandWords fuel rest)

/-- Redirects streams; `false` when that fails. -/
def redirectAll (line : Nat) : Nat → List Redirection → Run Bool
  | 0, _ => Run.forever
  | _, [] => return true
  | fuel + 1, r :: rest => do
    if ← redirect line r (flat (← expand fuel r.target)) then redirectAll line fuel rest
    else return false

/-- Assigns values. -/
def assignAll : Nat → List (Octets × Word) → Run Unit
  | 0, _ => Run.forever
  | _, [] => return ()
  | fuel + 1, (name, w) :: rest => do
    let value := flat (← expand fuel w)
    modify (·.setVariable name value)
    assignAll fuel rest

/-- Runs a command by its name; the result is its status. -/
def call (line : Nat) : Nat → Octets → List Octets → Run Nat
  | 0, _, _ => Run.forever
  | fuel + 1, name, args => do
    let s ← get
    match s.functions.find? (·.1 == name) with
    | some (_, body) =>
      set { s with arguments := args }
      let status ← tryCatch (do
        perform fuel body
        return (← get).status) fun stop => match stop with
          | .returned code => return code
          | stop => throw stop
      modify ({ · with arguments := s.arguments })
      return status
    | none =>
      let text := Octets.toText name
      match text, args with
      | "eval", _ =>
        setStatus 0
        runLines fuel { rest := [' '].intercalate args }
        return (← get).status
      | "exec", [] => return 0
      | "exec", name :: args => throw (.exit (← call line fuel name args))
      | "command", name :: args => call line fuel name args
      | _, _ =>
        if shellNames.contains text then
          match args with
          | ['-', 'c'] :: source :: rest =>
            let status ← Run.apart do
              modify fun t => { t with
                pid := t.pid + 1, title := rest.headD name, arguments := rest.drop 1
                functions := [], status := 0, loops := 0 }
              tryCatch (runLines fuel { rest := source }) fun stop => do
                match stop, (← get).overtime with
                | .killed signal, false => throw (.returned (128 + signal))
                | stop, _ => throw stop
            if !(← get).overtime then complainOfDeath status
            return status
          | _ => return 0
        else match Builtin.find? text with
          | some builtin => builtin line args
          | none =>
            let s ← get
            let found := if name.contains '/' then (s.files.find (s.path name)).toOption else none
            match found with
            | some _ =>
              complainAt line (text ++ ": Permission denied")
              return 126
            | none =>
              complainAt line (text ++ ": not found")
              return 127

/-- Does what was asked for in case of signals that have come. -/
def runCaught : Nat → Run Unit
  | 0 => Run.forever
  | fuel + 1 => do
    let s ← get
    match s.caught with
    | [] => return ()
    | action :: rest =>
      set { s with caught := rest }
      runLines fuel { rest := action }
      setStatus s.status
      runCaught fuel

/-- Runs a body for each of some values. -/
def runEach (name : Octets) (body : Command) : Nat → List Octets → Run Unit
  | 0, _ => Run.forever
  | _, [] => return ()
  | fuel + 1, value :: rest => do
    modify (·.setVariable name value)
    if ← Run.round (perform fuel body) then runEach name body fuel rest

/-- Runs a loop; `status` is that of its last round. -/
def runLoop (while' : Bool) (condition body : Command) (status : Nat) : Nat → Run Unit
  | 0 => Run.forever
  | fuel + 1 => do
    Run.asCondition (perform fuel condition)
    if ((← get).status == 0) != while' then setStatus status
    else
      let goesOn ← Run.round (perform fuel body)
      if goesOn then runLoop while' condition body (← get).status fuel

/-- Runs the first arm that has a pattern for a text. -/
def runArms (text : Octets) : Nat → List (List Word × Command) → Run Unit
  | 0, _ => Run.forever
  | _, [] => setStatus 0
  | fuel + 1, (patterns, body) :: rest => do
    let patterns ← expandFlat fuel patterns
    if patterns.any fun p => fits (2 * (p.length + text.length) + 2) p text then perform fuel body
    else runArms text fuel rest

/-- The texts of words that are not split. -/
def expandFlat : Nat → List Word → Run (List Octets)
  | 0, _ => Run.forever
  | _, [] => return []
  | fuel + 1, w :: rest => do
    let text := flat (← expand fuel w)
    return text :: (← expandFlat fuel rest)

/-- Runs a command. -/
def perform : Nat → Command → Run Unit
  | 0, _ => Run.forever
  | fuel + 1, c => do
    match c with
    | .nothing => setStatus 0
    | .simple line assigned words redirections =>
      match ← expandWords fuel words with
      | [] =>
        setStatus 0
        assignAll fuel assigned
        withStreams do
          if !(← redirectAll line fuel redirections) then setStatus 2
      | [['e', 'x', 'e', 'c']] =>
        if ← redirectAll line fuel redirections then setStatus 0 else throw (.exit 2)
      | name :: args =>
        let bindings := (← get).bindings
        assignAll fuel assigned
        withStreams do
          if ← redirectAll line fuel redirections then
            setStatus (← call line fuel name args)
          else setStatus 2
        if !assigned.isEmpty then modify ({ · with bindings })
      runCaught fuel
      checkStatus
    | .pipe left right =>
      let start := (← get).clock
      let (_, text) ← Run.captured (perform fuel left)
      let middle ← get
      set { middle with clock := if middle.overtime then middle.clock else start, input := text }
      let status ← Run.apart (perform fuel right)
      modify fun s => { s with clock := max s.clock middle.clock, input := [], status }
      checkStatus
    | .negation c =>
      Run.asCondition (perform fuel c)
      let s ← get
      setStatus (if s.status = 0 then 1 else 0)
    | .conjunction left right =>
      Run.asCondition (perform fuel left)
      if (← get).status = 0 then perform fuel right
    | .disjunction left right =>
      Run.asCondition (perform fuel left)
      if (← get).status != 0 then perform fuel right
    | .sequence first second =>
      perform fuel first
      perform fuel second
    | .background c =>
      let s ← get
      let (_, t) := (perform fuel c).run.run { s with
        input := [], overtime := false, limit := s.limit.map (· + Session.grace), jobs := [] }
      let held := if t.overtime then t.clock + 1 else t.clock
      let job : Job := {
        pid := s.pid + s.jobs.length + 1, finish := held, sinks := streamsOf s.out s.err c.redirections }
      set { s with
        files := t.files, buffers := t.buffers, status := 0, jobs := s.jobs ++ [job] }
    | .subshell c redirections =>
      withStreams do
        if ← redirectAll 1 fuel redirections then setStatus (← Run.apart (perform fuel c))
        else setStatus 2
      runCaught fuel
      checkStatus
    | .group c redirections =>
      withStreams do
        if ← redirectAll 1 fuel redirections then perform fuel c else setStatus 2
    | .branch condition yes no =>
      Run.asCondition (perform fuel condition)
      if (← get).status = 0 then perform fuel yes else perform fuel no
    | .loop while' condition body => runLoop while' condition body 0 fuel
    | .each name words body =>
      let values ← expandWords fuel words
      setStatus 0
      runEach name body fuel values
    | .choice w arms =>
      let text := flat (← expand fuel w)
      runArms text fuel arms
    | .definition name body =>
      modify fun s => { s with functions := (name, body) :: s.functions, status := 0 }

/-- Runs the lines of a text. -/
def runLines : Nat → Cursor → Run Unit
  | 0, _ => Run.forever
  | fuel + 1, cursor => do
    match Read.nextLine?.run cursor with
    | .error message =>
      complainAt cursor.line message
      throw (.exit 2)
    | .ok (none, _) => return ()
    | .ok (some c, cursor) =>
      perform fuel c
      runLines fuel cursor

end

/-- The greatest number of steps. -/
def maxSteps : Nat := 5000

/-- The bindings that a shell starts with. -/
def firstVariables : List (String × String) :=
  [("PATH", "/usr/local/sbin:/usr/local/bin:/usr/sbin:/usr/bin:/sbin:/bin"), ("TZ", "UTC"),
    ("LC_ALL", "C"), ("PPID", "1"), ("IFS", " \t\n")]

/-- The number of the process of a shell. -/
def shellPid : Nat := 5120

/-- Runs a script, and at its end what was asked for in that case. -/
def script (source : Octets) : Run Unit := do
  let code ← tryCatch (do
    runLines maxSteps { rest := source }
    return (← get).status) fun stop => match stop with
      | .exit code | .returned code => return code
      | .killed signal => throw (.killed signal)
      | _ => return (← get).status
  setStatus code
  match (← get).trap? 0 with
  | some action =>
    runLines maxSteps { rest := action }
    setStatus code
  | none => pure ()

/-- What can be read from a stream in time, although commands in the background hold it. -/
def collected (s : Session) (number : Nat) (limit : Option Nat) : String :=
  let held := s.jobs.any fun j => j.sinks.contains (.buffer number) && (match limit with
    | some l => l + Session.grace < j.finish
    | none => false)
  if held && !s.overtime then "" else Octets.toText (s.bufferOf number)

/-- How long a command took. What is still in the background is waited for while it holds a
stream, but not for long beyond a limit. -/
def taken (s : Session) (limit : Option Nat) : Nat :=
  let holding := s.jobs.filter fun j => j.sinks.contains (.buffer 1) || j.sinks.contains (.buffer 2)
  let last := holding.foldl (fun t j => max t j.finish) s.clock
  match limit with
  | some l => min last (max l s.clock + Session.grace)
  | none => last

/-- Runs a command on files; the number is the time it took. -/
def execute (limit : Option Nat) (command : String) (files : Disk.Tree) :
    Finish × Disk.Tree × Nat :=
  let start : Session := {
    files, limit, pid := shellPid, title := Octets.ofText "/bin/sh"
    bindings := firstVariables.map fun (k, v) => (k.toList, v.toList) }
  let (ended, s) := (script (Octets.ofText command)).run.run start
  let code : Option Int := match ended with
    | .ok () => some s.status
    | .error (.exit code) | .error (.returned code) => some code
    | .error _ => none
  (.ended code (collected s 1 limit) (collected s 2 limit) (if s.overtime then limit else none),
    s.files, taken s limit)

end Shell

/-- A shell that keeps nothing between commands but the time. -/
structure PosixShell where
  clock : Nat := 0
deriving DecidableEq, Repr

instance : Shell PosixShell where
  run limit command := fun (files, s) =>
    let (finish, files, time) := Shell.execute limit command files
    (finish, files, { clock := s.clock + time })
  clock s := s.clock

end Gatewatch
