/-
Reading a command line. The words before the name of a command are for the program, the words
behind it for the command. A value that stands in a word of its own is only looked at when the
next switch comes, or at the end; so of two mistakes the later one may be found first.
-/
import Gatewatch.Cli.Grammar
import Gatewatch.Text.Numeral
import Gatewatch.Text.Similar

namespace Gatewatch.Cli

/-- What may help whoever gave an unknown argument. -/
inductive Tip where
  | none
  | similar (long : String)
  | belongsTo (command long : String)
  | dropDashes (command : String)
deriving DecidableEq, Repr

/-- Why reading stops. The switches are those that have been read before. -/
inductive Stop where
  | help (c : Command)
  | version (c : Command)
  | nothing (c : Command)
  | noCommand (c : Command)
  | unknownCommand (c : Command) (word : String) (similar : List String)
  | unknownArgument (c : Command) (word : String) (tip : Tip) (used : List Switch)
  | repeated (c : Command) (s : Switch)
  | noValue (s : Switch)
  | badValue (s : Switch) (value reason : String)
  | unneededValue (c : Command) (s : Switch) (value : String) (used : List Switch)
  | noWords (c : Command) (used : List Switch)
deriving DecidableEq, Repr

/-- What has been read of a command: the switches with their values, the switch whose value is
still to be looked at, and the words. -/
structure Seen where
  given : List (Switch × String) := []
  waiting : Option (Switch × Option String) := none
  words : List String := []

namespace Seen

/-- The switches so far. -/
def used (l : Seen) : List Switch := l.given.map (·.1)

/-- The value of a switch. -/
def value? (l : Seen) (long : String) : Option String :=
  (l.given.find? (·.1.long == long)).map (·.2)

/-- Whether the next word has to be a value. -/
def expects (l : Seen) : Bool :=
  match l.waiting with
  | some (_, none) => true
  | _ => false

end Seen

/-- The greatest level of the log. -/
def maxLevel : Int := 4

/-- Why a text is no number of 64 bits. -/
def numeralFault (value : String) : String :=
  match value.toList with
  | '-' :: digits =>
    if (Text.digits? digits).isSome then "number too small to fit in target type"
    else "invalid digit found in string"
  | '+' :: digits | digits =>
    if (Text.digits? digits).isSome then "number too large to fit in target type"
    else "invalid digit found in string"

/-- Checks the value of a switch. -/
def checkValue (s : Switch) (value : String) : ValueKind → Except Stop Unit
  | .path => if value = "" then .error (.noValue s) else .ok ()
  | .text => .ok ()
  | .level =>
    if value = "" then .error (.badValue s value "cannot parse integer from empty string")
    else match Text.signed? 64 value.toList with
      | some n =>
        if 0 ≤ n && n ≤ maxLevel then .ok ()
        else .error (.badValue s value (toString n ++ " is not in 0..=" ++ toString maxLevel))
      | none => .error (.badValue s value (numeralFault value))

/-- Puts a switch to those that have been read. -/
def Seen.put (c : Command) (l : Seen) (s : Switch) (value : Option String) :
    Except Stop Seen := do
  match s.role, value with
  | .help, _ => .error (.help c)
  | .version, _ => .error (.version c)
  | .flag, _ =>
    if l.used.contains s then .error (.repeated c s)
    return { l with given := l.given ++ [(s, "true")] }
  | .value _, none => .error (.noValue s)
  | .value kind, some value =>
    if l.used.contains s then .error (.repeated c s)
    checkValue s value kind
    return { l with given := l.given ++ [(s, value)] }

/-- Looks at the value that waits. -/
def Seen.settle (c : Command) (l : Seen) : Except Stop Seen :=
  match l.waiting with
  | none => .ok l
  | some (s, value) => Seen.put c { l with waiting := none } s value

/-- The given switches, with those of a value that waits if it is good. -/
def Seen.usedAtLast (c : Command) (l : Seen) : List Switch :=
  match l.settle c with
  | .ok l => l.used
  | .error _ => l.used

/-- Reads short names in one word; behind one with a value, the rest of the word is the value. -/
def readShorts (c : Command) (l : Seen) : List Char → Except Stop Seen
  | [] => .ok l
  | x :: rest =>
    match c.short? x with
    | none => .error (.unknownArgument c ("-" ++ x.toString) .none [])
    | some s => do
      let l ← l.settle c
      match s.role, rest with
      | .value _, [] => return { l with waiting := some (s, none) }
      | .value _, '=' :: value => l.put c s (some (String.ofList value))
      | .value _, value => l.put c s (some (String.ofList value))
      | _, rest => readShorts c (← l.put c s none) rest

/-- The stop at an unknown long name. `rest` holds the words behind it. -/
def unknownLong (c : Command) (l : Seen) (long : String) (rest : List String) : Stop :=
  let used := l.usedAtLast c
  let best (command : Command) : Option String :=
    (Text.similarTo long (command.switches.map (·.long))).getLast?
  match (best c).bind c.switch? with
  | some s => .unknownArgument c ("--" ++ long) (.similar s.long) (used ++ [s])
  | none =>
    let later := rest.filter c.hasCommand
    let belongs := later.findSome? fun name => do
      let command ← command? name
      return Tip.belongsTo name (← best command)
    .unknownArgument c ("--" ++ long) (belongs.getD .none) used

/-- The stop at a word that has no place; `dashed` tells that it stands behind `--`. -/
def unplaced (c : Command) (dashed : Bool) (word : String) : Stop :=
  if c.commands.isEmpty then .unknownArgument c word .none []
  else if dashed && c.hasCommand word then .unknownArgument c word (.dropDashes word) []
  else .unknownCommand c word (Text.similarTo word (c.commands.map (·.1)))

/-- The stop of a question for help about commands by their names. -/
def helpAbout : List String → Stop
  | [] => .help program
  | name :: rest =>
    if name = "help" then
      match rest with
      | [] => .help helpCommand
      | word :: _ => .unknownCommand program word []
    else match command? name, rest with
      | some c, [] => .help c
      | some c, word :: _ => .unknownCommand c word []
      | none, _ => .unknownCommand program name []

/-- What was read of a command, and the command behind it with its words. -/
abbrev Level := Seen × Option (String × List String)

/-- Reads the words of a command, up to the name of a command of its own. -/
def readLevel (c : Command) : List String → Seen → Except Stop Level
  | [], l => .ok (l, none)
  | word :: rest, l =>
    -- a word that is no switch
    let plain (_ : Unit) : Except Stop Level :=
      match l.waiting with
      | some (s, none) => readLevel c rest { l with waiting := some (s, some word) }
      | _ =>
        if c.takesWords then do return ({ ← l.settle c with words := word :: rest }, none)
        else .error (unplaced c false word)
    if !l.expects && c.hasCommand word then
      if word = "help" then .error (helpAbout rest) else .ok (l, some (word, rest))
    else match word.toList with
      | ['-', '-'] =>
        match rest with
        | [] => .ok (l, none)
        | next :: _ =>
          if c.takesWords then do return ({ ← l.settle c with words := rest }, none)
          else .error (unplaced c true next)
      | '-' :: '-' :: cs =>
        let long := String.ofList (cs.takeWhile (· != '='))
        let value := match cs.dropWhile (· != '=') with
          | [] => none
          | _ :: value => some (String.ofList value)
        match c.switch? long with
        | none => if c.takesWords then plain () else .error (unknownLong c l long rest)
        | some s =>
          match s.role, value with
          | .value _, none => do
            readLevel c rest { ← l.settle c with waiting := some (s, none) }
          | .value _, some value => do readLevel c rest (← (← l.settle c).put c s (some value))
          | _, some value => .error (.unneededValue c s value (l.used ++ [s]))
          | _, none => do readLevel c rest (← (← l.settle c).put c s none)
      | '-' :: x :: cs =>
        if c.takesWords && (x :: cs).any fun y => (c.short? y).isNone then plain ()
        else do readLevel c rest (← readShorts c l (x :: cs))
      | _ => plain ()

/-- What to do. -/
inductive Task where
  | version
  | server (socket pidFile : Option String) (force : Bool) (level : Option Nat)
    (target : Option String)
  | client (socket : Option String) (words : List String)
deriving DecidableEq, Repr

/-- A command line that was read. -/
structure Invocation where
  task : Task
  config : Option String := none
  quiet : Bool := false
  verbose : Bool := false
deriving DecidableEq, Repr

/-- The task of a command. -/
def taskOf (c : Command) (l : Seen) : Task :=
  if c.name = "server" then
    .server (l.value? "socket") (l.value? "pidfile") (l.value? "force").isSome
      ((l.value? "loglevel").bind fun v => (Text.signed? 64 v.toList).map Int.toNat)
      (l.value? "logtarget")
  else if c.name = "client" then .client (l.value? "socket") l.words
  else .version

/-- Reads a command line. A switch of all commands may stand on both sides of the command; of
two values the one behind it counts. -/
def read (words : List String) : Except Stop Invocation := do
  let (outer, behind) ← readLevel program words {}
  match behind.bind fun (name, rest) => (command? name).map (·, rest) with
  | none =>
    let outer ← outer.settle program
    .error (if outer.given.isEmpty then .nothing program else .noCommand program)
  | some (c, rest) =>
    let (inner, _) ← readLevel c rest {}
    let inner ← inner.settle c
    if c.takesWords && inner.words.isEmpty then .error (.noWords c inner.used)
    let outer ← outer.settle program
    let either (long : String) : Option String := inner.value? long <|> outer.value? long
    return {
      task := taskOf c inner
      config := either "config"
      quiet := (either "quiet").isSome
      verbose := (either "verbose").isSome }

end Gatewatch.Cli
