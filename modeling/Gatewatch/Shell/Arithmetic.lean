/-
Arithmetic of a shell: expressions of whole numbers and bindings, with the operators of the
usual ranks. A variable without a number counts as zero, and truth is one.
-/
import Gatewatch.Shell.Octets

namespace Gatewatch.Shell.Arithmetic

/-- Why an expression has no value. -/
inductive Fault where
  | divisionByZero
  | malformed
deriving DecidableEq, Repr

/-- The message of a fault about an expression. -/
def Fault.text (source : Octets) : Fault → String
  | divisionByZero => "arithmetic expression: division by zero: \"" ++ Octets.toText source ++ "\""
  | malformed =>
    "arithmetic expression: expecting primary: \"" ++ Octets.toText source ++ "\""

/-- The operators with their ranks, the longer before the shorter. -/
def operators : List (String × Nat) :=
  [("||", 1), ("&&", 2), ("==", 3), ("!=", 3), ("<=", 4), (">=", 4), ("<", 4), (">", 4),
    ("+", 5), ("-", 5), ("*", 6), ("/", 6), ("%", 6)]

/-- The operator that a text starts with. -/
def operator? (cs : Octets) : Option (String × Nat) :=
  operators.find? fun (o, _) => o.toList.isPrefixOf cs

/-- One for true. -/
def truth (b : Bool) : Int := if b then 1 else 0

/-- The value of an operator on two numbers. -/
def value (operator : String) (a b : Int) : Except Fault Int :=
  match operator with
  | "||" => .ok (truth (a != 0 || b != 0))
  | "&&" => .ok (truth (a != 0 && b != 0))
  | "==" => .ok (truth (a == b))
  | "!=" => .ok (truth (a != b))
  | "<=" => .ok (truth (a ≤ b))
  | ">=" => .ok (truth (b ≤ a))
  | "<" => .ok (truth (a < b))
  | ">" => .ok (truth (b < a))
  | "+" => .ok (a + b)
  | "-" => .ok (a - b)
  | "*" => .ok (a * b)
  | "/" => if b = 0 then .error .divisionByZero else .ok (a.tdiv b)
  | _ => if b = 0 then .error .divisionByZero else .ok (a.tmod b)

/-- What is left behind blanks. -/
def blanks (cs : Octets) : Octets := cs.dropWhile fun c => c = ' ' || c = '\t' || c = '\n'

/-- The number that digits write. -/
def numeral (cs : Octets) : Int := ((String.ofList cs).toNat?).getD 0

mutual

/-- The value of an operand, and what is left. -/
def operand (lookup : Octets → Octets) : Nat → Octets → Except Fault (Int × Octets)
  | 0, _ => .error .malformed
  | fuel + 1, cs =>
    match blanks cs with
    | '(' :: rest => do
      let (n, rest) ← operation lookup 0 fuel rest
      match blanks rest with
      | ')' :: rest => return (n, rest)
      | _ => .error .malformed
    | '-' :: rest => do
      let (n, rest) ← operand lookup fuel rest
      return (-n, rest)
    | '+' :: rest => operand lookup fuel rest
    | '!' :: rest => do
      let (n, rest) ← operand lookup fuel rest
      return (truth (n == 0), rest)
    | cs =>
      let word := cs.takeWhile fun c => c.isAlphanum || c = '_'
      let rest := cs.drop word.length
      match word with
      | [] => .error .malformed
      | c :: _ =>
        if c.isDigit then .ok (numeral word, rest)
        else
          match blanks (lookup word) with
          | '-' :: ds => .ok (-numeral ds, rest)
          | ds => .ok (numeral ds, rest)

/-- The value of operands with operators above a rank between them. -/
def operation (lookup : Octets → Octets) (rank : Nat) :
    Nat → Octets → Except Fault (Int × Octets)
  | 0, _ => .error .malformed
  | fuel + 1, cs => do
    let (n, rest) ← operand lookup fuel cs
    further lookup rank fuel n rest

/-- Goes on behind a value while operators above a rank follow. -/
def further (lookup : Octets → Octets) (rank : Nat) :
    Nat → Int → Octets → Except Fault (Int × Octets)
  | 0, _, _ => .error .malformed
  | fuel + 1, n, cs =>
    let cs := blanks cs
    match operator? cs with
    | some (o, r) =>
      if r ≤ rank then .ok (n, cs)
      else do
        let (m, rest) ← operation lookup r fuel (cs.drop o.length)
        further lookup rank fuel (← value o n m) rest
    | none => .ok (n, cs)

end

/-- The value of an expression. -/
def evaluate (lookup : Octets → Octets) (source : Octets) : Except Fault Int := do
  if (blanks source).isEmpty then return 0
  let (n, rest) ← operation lookup 0 (2 * source.length + 4) source
  if (blanks rest).isEmpty then return n else .error .malformed

end Gatewatch.Shell.Arithmetic
