/-
The command line as data: the commands of the program and what each one takes. Reading the
words of a command line, and the texts that explain it, both go by these values.
-/

namespace Gatewatch.Cli

/-- The name of the program. -/
def programName : String := "failwarden"

/-- The version of the program. -/
def programVersion : String := "0.1.0"

/-- What the value of a switch has to be. -/
inductive ValueKind where
  /-- A path, which is not empty. -/
  | path
  | text
  /-- A level of the log. -/
  | level
deriving DecidableEq, Repr

/-- What a switch is for. -/
inductive Role where
  | flag
  | value (kind : ValueKind)
  | help
  | version
deriving DecidableEq, Repr

/-- A switch: `--long` or `-s`. Its rank is its place among those of its command. -/
structure Switch where
  long : String
  short : Option Char := none
  role : Role := .flag
  about : String
  rank : Nat := 999
deriving DecidableEq, Repr

/-- A command. Either it has commands of its own, or it may take words. -/
structure Command where
  name : String
  /-- How it is called. -/
  call : String
  about : String
  switches : List Switch
  /-- The names of its commands, with what they are about. -/
  commands : List (String × String) := []
  /-- What the words that it takes are about, if it takes words. -/
  wordsAbout : Option String := none
  /-- How these words are shown. -/
  wordsText : String := "<ARGS>..."
deriving DecidableEq, Repr

namespace Command

/-- Whether the command takes words. -/
def takesWords (c : Command) : Bool := c.wordsAbout.isSome

/-- Whether a word is the name of a command of this command. -/
def hasCommand (c : Command) (word : String) : Bool := c.commands.any (·.1 == word)

/-- The switch with a long name. -/
def switch? (c : Command) (long : String) : Option Switch := c.switches.find? (·.long == long)

/-- The switch with a short name. -/
def short? (c : Command) (short : Char) : Option Switch :=
  c.switches.find? (·.short == some short)

end Command

/-- The switches of all commands, before the command or behind it. -/
def sharedSwitches : List Switch := [
  { long := "config", short := some 'c', role := .value .path, rank := 0
    about := "Config file path (default: /etc/failwarden/config.yaml when present)" },
  { long := "quiet", short := some 'q', rank := 1, about := "Quiet mode (errors only)" },
  { long := "verbose", short := some 'v', rank := 2, about := "Verbose mode (debug output)" },
  { long := "help", short := some 'h', role := .help, about := "Print help" },
  { long := "version", short := some 'V', role := .version, about := "Print version" }]

/-- The switch for the place of the control socket. -/
def socketSwitch : Switch :=
  { long := "socket", short := some 's', role := .value .path, rank := 0
    about := "Control socket path" }

/-- The command that runs the server. -/
def serverCommand : Command where
  name := "server"
  call := programName ++ " server"
  about := "Run the daemon in the foreground"
  switches := [
    socketSwitch,
    { long := "pidfile", short := some 'p', role := .value .path, rank := 1
      about := "PID file path" },
    { long := "force", short := some 'x', rank := 2
      about := "Remove a stale control socket before binding" },
    { long := "loglevel", role := .value .level, rank := 3
      about := "Log level (0 fatal .. 4 debug)" },
    { long := "logtarget", role := .value .text, rank := 4
      about := "Log target: STDOUT, STDERR, SYSLOG or a file path" }] ++ sharedSwitches

/-- The command that sends a request to a server. -/
def clientCommand : Command where
  name := "client"
  call := programName ++ " client"
  about := "Send one command to a running server and print the reply"
  switches := socketSwitch :: sharedSwitches
  wordsAbout := some "Command and arguments, e.g. `status ssh`"

/-- The command that shows the version. -/
def versionCommand : Command where
  name := "version"
  call := programName ++ " version"
  about := "Show version"
  switches := sharedSwitches

/-- The command that shows the help of others. -/
def helpCommand : Command where
  name := "help"
  call := programName ++ " help"
  about := "Print this message or the help of the given subcommand(s)"
  switches := []
  wordsAbout := some "Print help for the subcommand(s)"
  wordsText := "[COMMAND]..."

/-- The command of a name, among those that do something. -/
def command? : String → Option Command
  | "server" => some serverCommand
  | "client" => some clientCommand
  | "version" => some versionCommand
  | _ => none

/-- The program as a command. -/
def program : Command where
  name := programName
  call := programName
  about := "Ban hosts that cause repeated failures in log files"
  switches := sharedSwitches
  commands := [serverCommand, clientCommand, versionCommand, helpCommand].map
    fun c => (c.name, c.about)

end Gatewatch.Cli
