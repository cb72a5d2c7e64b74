/-
The texts that explain the command line: the help of a command, and what is said about a
command line that cannot be read.
-/
import Gatewatch.Cli.Reading

namespace Gatewatch.Cli

/-- A text with blanks behind it up to a width. -/
def padded (width : Nat) (text : String) : String :=
  text ++ String.ofList (List.replicate (width - text.length) ' ')

/-- The long name of a switch with the name of its value. -/
def Switch.text (s : Switch) : String :=
  match s.role with
  | .value _ => "--" ++ s.long ++ " <" ++ s.long.map Char.toUpper ++ ">"
  | _ => "--" ++ s.long

/-- What the words of a command look like in its usage. -/
def Command.tail (c : Command) : String :=
  (if c.takesWords then " " ++ c.wordsText else "")
    ++ (if c.commands.isEmpty then "" else " <COMMAND>")

/-- The usage of a command, with the switches that are in use if there are any. -/
def Command.usage (c : Command) (used : List Switch) : String :=
  "Usage: " ++ c.call
    ++ (if c.switches.isEmpty then ""
      else if used.isEmpty then " [OPTIONS]"
      else String.join ((used.map fun s => " " ++ s.text).eraseDups))
    ++ c.tail

/-- The key that orders switches of one rank. -/
def Switch.key (s : Switch) : String :=
  match s.short with
  | some c => String.ofList [c.toLower, if c.isLower then '0' else '1']
  | none => s.long

/-- Whether a switch comes before another in the help. -/
def Switch.before (s t : Switch) : Bool :=
  s.rank < t.rank || (s.rank == t.rank && s.key < t.key)

/-- Puts a switch in its place in the help. -/
def insertSwitch (s : Switch) : List Switch → List Switch
  | [] => [s]
  | t :: rest => if s.before t then s :: t :: rest else t :: insertSwitch s rest

/-- A section of the help: a heading, and lines of two columns. -/
def helpSection (heading : String) (rows : List (String × String)) : List String :=
  let width := rows.foldl (fun w (text, _) => max w text.length) 0
  if rows.isEmpty then []
  else ["\n".intercalate ((heading ++ ":")
    :: rows.map fun (text, about) => "  " ++ padded width text ++ "  " ++ about)]

/-- The help of a command. -/
def Command.help (c : Command) : String :=
  let switches := c.switches.foldl (fun sorted s => insertSwitch s sorted) []
  let short (s : Switch) : String := match s.short with
    | some x => "-" ++ x.toString ++ ", "
    | none => "    "
  let sections := helpSection "Commands" c.commands
    ++ helpSection "Arguments" ((c.wordsAbout.map (c.wordsText, ·)).toList)
    ++ helpSection "Options" (switches.map fun s => (short s ++ s.text, s.about))
  c.about ++ "\n\n" ++ c.usage [] ++ "\n\n" ++ "\n\n".intercalate sections ++ "\n"

/-- A tip with its line. -/
def Tip.text : Tip → String
  | none => ""
  | similar long => "\n\n  tip: a similar argument exists: '--" ++ long ++ "'"
  | belongsTo command long => "\n\n  tip: '" ++ command ++ " --" ++ long ++ "' exists"
  | dropDashes command =>
    "\n\n  tip: subcommand '" ++ command ++ "' exists; to use it, remove the '--' before it"

/-- The line about commands with similar names. -/
def similarCommands : List String → String
  | [] => ""
  | [name] => "\n\n  tip: a similar subcommand exists: '" ++ name ++ "'"
  | names => "\n\n  tip: some similar subcommands exist: "
    ++ ", ".intercalate (names.map fun name => "'" ++ name ++ "'")

/-- An error with the usage, if that helps. -/
def complaint (message : String) (usage : Option String) : String :=
  "error: " ++ message ++ (match usage with
    | some usage => "\n\n" ++ usage
    | none => "") ++ "\n\nFor more information, try '--help'.\n"

namespace Stop

/-- Whether reading stopped because that was asked for. -/
def isAsked : Stop → Bool
  | help _ | version _ => true
  | _ => false

/-- What is printed. -/
def text : Stop → String
  | help c | nothing c => c.help
  | version c => c.call.map (fun x => if x = ' ' then '-' else x) ++ " " ++ programVersion ++ "\n"
  | noCommand c => complaint ("'" ++ c.call ++ "' requires a subcommand but one was not provided\n"
      ++ "  [subcommands: " ++ ", ".intercalate (c.commands.map (·.1)) ++ "]") (c.usage [])
  | unknownCommand c word similar =>
    complaint ("unrecognized subcommand '" ++ word ++ "'" ++ similarCommands similar) (c.usage [])
  | unknownArgument c word tip used =>
    complaint ("unexpected argument '" ++ word ++ "' found" ++ tip.text) (c.usage used)
  | repeated c s =>
    complaint ("the argument '" ++ s.text ++ "' cannot be used multiple times") (c.usage [])
  | noValue s =>
    complaint ("a value is required for '" ++ s.text ++ "' but none was supplied") .none
  | badValue s value reason =>
    complaint ("invalid value '" ++ value ++ "' for '" ++ s.text ++ "': " ++ reason) .none
  | unneededValue c s value used =>
    complaint ("unexpected value '" ++ value ++ "' for '" ++ s.text
      ++ "' found; no more were expected") (c.usage used)
  | noWords c used =>
    complaint ("the following required arguments were not provided:\n  " ++ c.wordsText)
      ("Usage: " ++ c.call ++ String.join (used.map fun s => " " ++ s.text) ++ c.tail)

/-- The exit code of the program. -/
def code (s : Stop) : Nat := if s.isAsked then 0 else 2

end Stop

end Gatewatch.Cli
