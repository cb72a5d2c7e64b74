/-
A shell whose answers are written down beforehand. Each rule answers the commands that start
with a text, some number of times or always; the first rule that can still answer does. A
command without a rule succeeds. All commands are recorded.
-/
import Gatewatch.Host

namespace Gatewatch

/-- A rule: the text that its commands start with, and how they end. `uses` tells how many
times it can still answer, if there is a limit. -/
structure Script.Rule where
  start : String
  finish : Finish
  uses : Option Nat := none
deriving DecidableEq, Repr

/-- The rules, and the commands so far in order. -/
structure Script where
  rules : List Script.Rule := []
  commands : List String := []
deriving DecidableEq, Repr

namespace Script

/-- Whether a rule answers a command. -/
def Rule.answers (r : Rule) (command : String) : Bool :=
  r.uses != some 0 && r.start.toList.isPrefixOf command.toList

/-- The answer of the first rule that answers, and the rules after its use. -/
def answer (command : String) : List Rule → Finish × List Rule
  | [] => (.ended (some 0) "" "" none, [])
  | r :: rest =>
    if r.answers command then (r.finish, { r with uses := r.uses.map (· - 1) } :: rest)
    else
      let (finish, rest) := answer command rest
      (finish, r :: rest)

instance : Shell Script where
  run _ command := fun (files, s) =>
    let (finish, rules) := answer command s.rules
    (finish, files, { rules, commands := s.commands ++ [command] })

end Script

end Gatewatch
