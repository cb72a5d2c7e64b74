/-
Requests and replies. A request is a list of words; numbers and truth values are taken by
their text. A reply is a code with a value, and code 0 means success.
-/
import Gatewatch.Error
import Gatewatch.Json.Writer
import Gatewatch.Word

namespace Gatewatch.Wire

open Json (Value)

/-- Reads a word of a request. -/
def readWord : Value → Outcome String
  | .str s => .ok s
  | .num n => .ok n.text
  | .bool b => .ok (if b then "true" else "false")
  | v => .error (.unsupportedArgument v.text)

/-- Reads a request. -/
def readRequest : Value → Outcome (List String)
  | .arr [] => .error .emptyRequest
  | .arr items => items.mapM readWord
  | _ => .error .requestNotArray

/-- A reply. -/
structure Reply where
  code : Int
  value : Value

namespace Reply

/-- The reply of a request that succeeded. -/
def ok (v : Value) : Reply := ⟨0, v⟩

/-- The reply of a request that failed. -/
def error (message : String) : Reply := ⟨1, .str message⟩

/-- Whether the request succeeded. -/
def isOk (r : Reply) : Bool := r.code == 0

/-- The reply as a value. -/
def toValue (r : Reply) : Value := .arr [.ofInt r.code, r.value]

/-- The code that a value gives, if it is one. -/
def code? : Value → Option Int
  | .num (.int n) => if -(Word.size 31) ≤ n && n < Word.size 31 then some n else none
  | _ => none

/-- Reads a reply. -/
def ofValue : Value → Outcome Reply
  | .arr [code, value] =>
    match code? code with
    | some code => .ok ⟨code, value⟩
    | none => .error .badReplyCode
  | v => .error (.malformedReply v.text)

end Reply

end Gatewatch.Wire
