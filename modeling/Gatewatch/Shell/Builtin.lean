/-
Commands that a shell knows, and some that are found beside it. Each takes its arguments and
gives its status.
-/
import Gatewatch.Shell.Format
import Gatewatch.Shell.Session

namespace Gatewatch.Shell

/-- A command: its line, its arguments, and the status that it ends with. -/
abbrev Builtin := Nat → List Octets → Run Nat

namespace Builtin

open Run (print complain complainAt)

/-- The reason of a fault, without its number. -/
def reason (e : Disk.Fault) : String := (e.text.splitOn " (os error").headD ""

/-- The signals by name. -/
def signals : List (String × Nat) :=
  [("EXIT", 0), ("HUP", 1), ("INT", 2), ("QUIT", 3), ("KILL", 9), ("USR1", 10), ("USR2", 12),
    ("PIPE", 13), ("ALRM", 14), ("TERM", 15)]

/-- The signal that a word names. -/
def signal? (word : Octets) : Option Nat :=
  match Text.digits? word with
  | some n => some n
  | none => (signals.find? (·.1.toList == word)).map (·.2)

/-- Sends a signal to a process. -/
def send (line signal : Nat) (target : Octets) : Run Nat := do
  let s ← get
  match Text.digits? target with
  | none =>
    complainAt line ("kill: Illegal number: " ++ Octets.toText target)
    return 2
  | some pid =>
    if pid = s.pid || pid = 0 then
      if signal != 0 then Run.receive signal
      return 0
    else if s.jobs.any (·.pid == pid) then
      if signal != 0 then
        set { s with jobs := s.jobs.filter (·.pid != pid) }
      return 0
    else
      complainAt line "kill: No such process\n"
      return 1

/-- Sends signals. -/
def kill : Builtin := fun line args => do
  let (signal, targets) := match args with
    | ['-', 's'] :: name :: rest => (signal? name, rest)
    | ('-' :: name) :: rest => (signal? name, rest)
    | rest => (some Session.termination, rest)
  match signal, targets with
  | none, _ =>
    complainAt line "kill: Illegal option"
    return 2
  | _, [] =>
    complainAt line "kill: Usage: kill [-s sigspec | -signum | -sigspec] [pid | job]... or\nkill -l [exitstatus]"
    return 2
  | some signal, targets =>
    let mut status := 0
    for target in targets do
      status := max status (← send line signal target)
    return status

/-- The milliseconds of a time to sleep: seconds with decimals, or a greater unit. -/
def milliseconds? (word : Octets) : Option Nat :=
  let (number, unit) := match word.reverse with
    | 's' :: rest => (rest.reverse, 1)
    | 'm' :: rest => (rest.reverse, 60)
    | 'h' :: rest => (rest.reverse, 3600)
    | _ => (word, 1)
  let whole := number.takeWhile (· != '.')
  let decimals := (number.drop (whole.length + 1)).take 3
  if number.isEmpty || !number.all fun c => c.isDigit || c = '.' then none
  else
    let part := (Text.digits? (decimals ++ List.replicate (3 - decimals.length) '0')).getD 0
    some (unit * (1000 * (Text.digits? whole).getD 0 + part))

/-- Waits. -/
def sleep : Builtin := fun _ args => do
  if args.isEmpty then
    complain "sleep: missing operand\nTry 'sleep --help' for more information."
    return 1
  match args.find? fun a => (milliseconds? a).isNone with
  | some bad =>
    complain ("sleep: invalid time interval '" ++ Octets.toText bad
      ++ "'\nTry 'sleep --help' for more information.")
    return 1
  | none => Run.pass (args.foldl (fun n a => n + (milliseconds? a).getD 0) 0)

/-- Waits for the commands in the background. -/
def wait : Builtin := fun _ _ => do
  let s ← get
  let last := s.jobs.foldl (fun t j => max t j.finish) s.clock
  let status ← Run.pass (last - s.clock)
  modify ({ · with jobs := [] })
  return status

/-- The text of a file. -/
def content (name : Octets) : Run (Except Disk.Fault Octets) := do
  let s ← get
  return (s.files.read (s.path name)).map Octets.ofBytes

/-- Takes all input. -/
def takeInput : Run Octets := do
  let s ← get
  set { s with input := [] }
  return s.input

/-- Does something with the text of each file, or with the input if there is none. -/
def eachText (command : String) (names : List Octets) (f : Octets → Option Octets → Run Unit) :
    Run Nat := do
  if names.isEmpty then
    f (← takeInput) none
    return 0
  let mut status := 0
  for name in names do
    if name = ['-'] then f (← takeInput) none
    else match ← content name with
      | .ok text => f text (some name)
      | .error e =>
        complain (command ++ ": " ++ Octets.toText name ++ ": " ++ reason e)
        status := 1
  return status

/-- Prints files. -/
def cat : Builtin := fun _ args => eachText "cat" args fun text _ => print text

/-- Prints the first lines of files. -/
def head : Builtin := fun _ args => do
  let (count, names) := match args with
    | ['-', 'n'] :: n :: rest => ((Text.digits? n).getD 10, rest)
    | ('-' :: n) :: rest => ((Text.digits? n).getD 10, rest)
    | rest => (10, rest)
  let rec first : Nat → Octets → Octets
    | 0, _ => []
    | _, [] => []
    | n + 1, c :: cs => c :: (if c = '\n' then first n cs else first (n + 1) cs)
  eachText "head" names fun text _ => print (first count text)

/-- Counts lines or bytes. -/
def wc : Builtin := fun _ args => do
  let (bytes, names) := match args with
    | ['-', 'c'] :: rest => (true, rest)
    | ['-', 'l'] :: rest => (false, rest)
    | rest => (false, rest)
  eachText "wc" names fun text name =>
    print (Octets.ofNat (if bytes then text.length else text.count '\n')
      ++ (name.map (' ' :: ·)).getD [] ++ ['\n'])

/-- Prints numbers in order. -/
def seq : Builtin := fun _ args => do
  let numbers := args.map fun a => (Format.numberOf a).getD 0
  let (first, step, last) : Int × Int × Int := match numbers with
    | [b] => (1, 1, b)
    | [a, b] => (a, 1, b)
    | [a, c, b] => (a, c, b)
    | _ => (1, 1, 0)
  let count : Nat := if 0 < step then ((last - first).fdiv step + 1).toNat
    else if step < 0 then ((first - last).fdiv (-step) + 1).toNat else 0
  print ((List.range count).flatMap fun (i : Nat) => Octets.ofInt (first + step * (i : Int)) ++ ['\n'])
  return 0

/-- Changes the files; what fails is told with the name of the command. -/
def edit (message : String → String) (change : Disk.Tree → String → Except Disk.Fault Disk.Tree)
    (names : List Octets) : Run Nat := do
  let mut status := 0
  for name in names do
    let s ← get
    match change s.files (s.path name) with
    | .ok files => set { s with files }
    | .error e =>
      let text := message (Octets.toText name)
      if text != "" then
        complain (text ++ ": " ++ reason e)
        status := 1
  return status

/-- Makes files that are missing. -/
def touch : Builtin := fun _ args =>
  edit (fun name => "touch: cannot touch '" ++ name ++ "'") (fun t p => t.append p []) args

/-- Makes directories. -/
def mkdir : Builtin := fun _ args =>
  match args with
  | ['-', 'p'] :: names =>
    edit (fun name => "mkdir: cannot create directory '" ++ name ++ "'")
      (fun t p => t.makeDirectories p) names
  | names =>
    edit (fun name => "mkdir: cannot create directory '" ++ name ++ "'")
      (fun t p => t.makeDirectory p) names

/-- Removes files. -/
def rm : Builtin := fun _ args =>
  let (options, names) := args.partition fun a => a.head? = some '-'
  let quiet := options.any (·.contains 'f')
  edit (fun name => if quiet then "" else "rm: cannot remove '" ++ name ++ "'")
    (fun t p => t.remove p) names

/-- Moves a file. -/
def mv : Builtin := fun _ args => do
  match args with
  | [source, target] =>
    let s ← get
    match s.files.rename (s.path source) (s.path target) with
    | .ok files =>
      set { s with files }
      return 0
    | .error e =>
      complain ("mv: cannot stat '" ++ Octets.toText source ++ "': " ++ reason e)
      return 1
  | _ =>
    complain "mv: missing file operand\nTry 'mv --help' for more information."
    return 1

/-- Prints a template. -/
def printf : Builtin := fun line args => do
  match args with
  | [] =>
    complainAt line "printf: usage: printf format [arg ...]"
    return 2
  | template :: arguments =>
    let p := Format.printf template arguments
    print p.text
    for bad in p.bad do
      complainAt line ("printf: " ++ Octets.toText bad ++ ": expected numeric value")
    return if p.bad.isEmpty then 0 else 1

/-- Whether a file passes a test. -/
def fileTest (letter : Char) (name : Octets) : Run (Option Bool) := do
  let s ← get
  let node : Option Disk.Content := (s.files.find (s.path name)).toOption.map (·.2.content)
  match letter with
  | 'e' | 'r' | 'w' => return some node.isSome
  | 'f' => return some (match node with
    | some (.file _) => true
    | _ => false)
  | 'd' => return some (node == some .directory)
  | 'S' => return some (node == some .socket)
  | 's' => return some (match node with
    | some (.file bytes) => !bytes.isEmpty
    | some .directory => true
    | _ => false)
  | 'x' => return some (node == some .directory)
  | _ => return none

/-- A comparison of two numbers. -/
def comparison? : String → Option (Int → Int → Bool)
  | "-eq" => some (· == ·)
  | "-ne" => some (· != ·)
  | "-lt" => some fun a b => decide (a < b)
  | "-le" => some fun a b => decide (a ≤ b)
  | "-gt" => some fun a b => decide (b < a)
  | "-ge" => some fun a b => decide (b ≤ a)
  | _ => none

/-- The whole number that a word writes. -/
def whole? (word : Octets) : Option Int := Text.signed? 64 word

/-- Tests a condition; the result is its status. -/
def test (name : String) : Nat → Builtin
  | 0, _, _ => return 2
  | fuel + 1, line, args => do
    let status (b : Bool) : Nat := if b then 0 else 1
    match args with
    | [] => return 1
    | [a] => return status (!a.isEmpty)
    | ['!'] :: rest =>
      let inner ← test name fuel line rest
      return if inner = 0 then 1 else if inner = 1 then 0 else inner
    | [['-', 'n'], a] => return status (!a.isEmpty)
    | [['-', 'z'], a] => return status a.isEmpty
    | [['-', letter], a] =>
      match ← fileTest letter a with
      | some b => return status b
      | none =>
        complainAt line (name ++ ": -" ++ letter.toString ++ ": unexpected operator")
        return 2
    | [a, o, b] =>
      let operator := String.ofList o
      match operator, comparison? operator with
      | "=", _ => return status (a == b)
      | "!=", _ => return status (a != b)
      | _, some compare =>
        match whole? a, whole? b with
        | some x, some y => return status (compare x y)
        | none, _ =>
          complainAt line (name ++ ": Illegal number: " ++ Octets.toText a)
          return 2
        | _, none =>
          complainAt line (name ++ ": Illegal number: " ++ Octets.toText b)
          return 2
      | _, none =>
        complainAt line (name ++ ": " ++ Octets.toText a ++ ": unexpected operator")
        return 2
    | a :: _ =>
      let left := args.takeWhile fun w => w != ['-', 'a'] && w != ['-', 'o']
      match args.drop left.length with
      | ['-', 'a'] :: right =>
        let first ← test name fuel line left
        let second ← test name fuel line right
        return max first second
      | ['-', 'o'] :: right =>
        let first ← test name fuel line left
        let second ← test name fuel line right
        return min first second
      | _ =>
        complainAt line (name ++ ": " ++ Octets.toText a ++ ": unexpected operator")
        return 2

/-- A code that ends something, from the word for it. -/
def codeOf (line : Nat) (name : String) (args : List Octets) : Run Nat := do
  match args with
  | [] => return (← get).status
  | word :: _ =>
    match Text.digits? word with
    | some n => return n % 256
    | none =>
      complainAt line (name ++ ": Illegal number: " ++ Octets.toText word)
      throw (.exit 2)

/-- Changes the directory. -/
def cd : Builtin := fun line args => do
  let s ← get
  match args with
  | [] => return 0
  | name :: _ =>
    let path := s.path name
    match s.files.find path with
    | .ok (_, ⟨.directory, _⟩) =>
      set { s with directory := path }
      return 0
    | _ =>
      complainAt line ("cd: can't cd to " ++ Octets.toText name)
      return 2

/-- Reads a line of the input into bindings. -/
def read : Builtin := fun _ args => do
  let s ← get
  let names := args.filter fun a => a.head? != some '-'
  let line := s.input.takeWhile (· != '\n')
  let rest := s.input.drop line.length
  let rec fill (s : Session) : List Octets → Octets → Session
    | [], _ => s
    | [name], cs =>
      s.setVariable name ((cs.dropWhile (· = ' ')).reverse.dropWhile (· = ' ')).reverse
    | name :: names, cs =>
      let cs := cs.dropWhile (· = ' ')
      let word := cs.takeWhile (· != ' ')
      fill (s.setVariable name word) names (cs.drop word.length)
  set { fill s names line with input := rest.drop 1 }
  return if rest.isEmpty then 1 else 0

/-- Sets or resets what is done for signals. -/
def trap : Builtin := fun line args => do
  match args with
  | action :: names =>
    let mut status := 0
    for name in names do
      match signal? name with
      | some n => modify fun s =>
          let others := s.traps.filter (·.1 != n)
          { s with traps := if action = ['-'] then others else (n, action) :: others }
      | none =>
        complainAt line ("trap: " ++ Octets.toText name ++ ": bad trap")
        status := 1
    return status
  | [] => return 0

/-- Assigns what words like `name=value` say. -/
def export' : Builtin := fun _ args => do
  for a in args do
    let name := a.takeWhile (· != '=')
    match a.drop name.length with
    | '=' :: value => modify (·.setVariable name value)
    | _ => pure ()
  return 0

/-- Sets the options and the arguments of the shell. -/
def set' : Builtin := fun _ args => do
  match args with
  | ['-', 'e'] :: rest =>
    modify ({ · with strict := true })
    if !rest.isEmpty then modify ({ · with arguments := rest })
  | ['+', 'e'] :: _ => modify ({ · with strict := false })
  | ['-', '-'] :: rest => modify ({ · with arguments := rest })
  | [] => pure ()
  | rest => modify ({ · with arguments := rest })
  return 0

/-- Goes on somewhere else in the loops around, if there are any. -/
def inLoop (stop : Nat → Stop) : Builtin := fun _ args => do
  if (← get).loops = 0 then return 0
  throw (stop ((args.head?.bind Text.digits?).getD 1))

/-- Prints the names in a directory, or the names of files. -/
def ls : Builtin := fun _ args => do
  let s ← get
  let mut status := 0
  for name in (if args.isEmpty then [['.']] else args) do
    match s.files.resolve (s.path name) with
    | .error e =>
      complain ("ls: cannot access '" ++ Octets.toText name ++ "': " ++ reason e)
      status := 2
    | .ok p =>
      if s.files.isDirectory p then
        let names := s.files.names.filterMap fun (q, _) =>
          if q.dropLast = p && q != p then q.getLast? else none
        for n in names.mergeSort (fun a b => decide (a ≤ b)) do
          if !n.startsWith "." then print (Octets.ofText n ++ ['\n'])
      else if (s.files.at? p).isSome then print (name ++ ['\n'])
      else
        complain ("ls: cannot access '" ++ Octets.toText name ++ "': No such file or directory")
        status := 2
  return status

/-- The command of a name. -/
def find? (name : String) : Option Builtin :=
  let ok : Builtin := fun _ _ => return 0
  match name with
  | ":" | "true" | "umask" => some ok
  | "false" => some fun _ _ => return 1
  | "echo" => some fun _ args => do
    print (Format.echo args)
    return 0
  | "printf" => some printf
  | "kill" => some kill
  | "sleep" => some sleep
  | "wait" => some wait
  | "cat" => some cat
  | "head" => some head
  | "wc" => some wc
  | "seq" => some seq
  | "ls" => some ls
  | "touch" => some touch
  | "mkdir" => some mkdir
  | "rm" => some rm
  | "mv" => some mv
  | "test" => some fun line args => test "test" (args.length + 1) line args
  | "[" => some fun line args => do
    if args.getLast? = some [']'] then test "[" (args.length + 1) line args.dropLast
    else
      complainAt line "[: missing ]"
      return 2
  | "cd" => some cd
  | "read" => some read
  | "trap" => some trap
  | "export" | "readonly" | "local" => some export'
  | "set" => some set'
  | "unset" => some fun _ args => do
    modify fun s => { s with bindings := s.bindings.filter fun (k, _) => !args.contains k }
    return 0
  | "shift" => some fun _ args => do
    modify fun s => { s with
      arguments := s.arguments.drop ((args.head?.bind Text.digits?).getD 1) }
    return 0
  | "exit" => some fun line args => do throw (.exit (← codeOf line "exit" args))
  | "return" => some fun line args => do throw (.returned (← codeOf line "return" args))
  | "break" => some (inLoop .leaveLoops)
  | "continue" => some (inLoop .nextRound)
  | _ => none

end Builtin

end Gatewatch.Shell
