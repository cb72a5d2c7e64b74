/-
The commands of a shell, and the words that they are made of.
-/
import Gatewatch.Shell.Octets

namespace Gatewatch.Shell

/-- What stands for a parameter. `colon` tells that an empty value counts as none. -/
inductive Expansion where
  | value
  | length
  /-- The value, or else a word. -/
  | otherwise (colon : Bool)
  /-- The value, or else a word that becomes the value. -/
  | assign (colon : Bool)
  /-- A word if there is a value, or else nothing. -/
  | instead (colon : Bool)
deriving DecidableEq, Repr

/-- A part of a word. The parts that are quoted are not split into fields. -/
inductive Part where
  | text (quoted : Bool) (cs : Octets)
  | parameter (quoted : Bool) (name : Octets) (expansion : Expansion) (word : List Part)
  /-- What a command prints. -/
  | output (quoted : Bool) (source : Octets)
  /-- The value of an expression, after what stands for its parameters. -/
  | sum (quoted : Bool) (expression : List Part)

/-- A word. -/
abbrev Word := List Part

/-- The text of a word that is written without quotes and parameters. -/
def literal? : Word → Option Octets
  | [.text false cs] => some cs
  | _ => none

/-- What a redirection does with its stream. -/
inductive Direction where
  | into
  | behind
  | fromFile
  /-- To the place of another stream. -/
  | duplicate
deriving DecidableEq, Repr

/-- A redirection of the stream with a number. -/
structure Redirection where
  stream : Nat
  direction : Direction
  target : Word

/-- A command. -/
inductive Command where
  | nothing
  /-- Assignments and words, on a line. -/
  | simple (line : Nat) (assigned : List (Octets × Word)) (words : List Word)
    (redirections : List Redirection)
  | pipe (left right : Command)
  | negation (c : Command)
  | conjunction (left right : Command)
  | disjunction (left right : Command)
  | sequence (first second : Command)
  | background (c : Command)
  | subshell (c : Command) (redirections : List Redirection)
  | group (c : Command) (redirections : List Redirection)
  | branch (condition yes no : Command)
  /-- Goes on while the condition succeeds, or until it does. -/
  | loop (while' : Bool) (condition body : Command)
  | each (name : Octets) (words : List Word) (body : Command)
  | choice (word : Word) (arms : List (List Word × Command))
  | definition (name : Octets) (body : Command)

/-- The redirections of a command as a whole. -/
def Command.redirections : Command → List Redirection
  | .simple _ _ _ rs | .subshell _ rs | .group _ rs => rs
  | _ => []

end Gatewatch.Shell
