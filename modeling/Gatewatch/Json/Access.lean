/-
Looking into JSON values that are expected to have a certain shape. Where a value has another
shape, the empty or zero value of the type stands in.
-/
import Gatewatch.Json.Value

namespace Gatewatch.Json.Value

/-- The member of an object, or null. -/
def field (v : Value) (key : String) : Value := (v.get? key).getD null

/-- Whether the value is null. -/
def isNull : Value → Bool
  | null => true
  | _ => false

/-- The text that the value is. -/
def asText : Value → String
  | str s => s
  | _ => ""

/-- The whole number that the value is. -/
def asInt : Value → Int
  | num (.int n) => n
  | _ => 0

/-- The natural number that the value is. -/
def asNat (v : Value) : Nat := v.asInt.toNat

/-- The truth value that the value is. -/
def asBool : Value → Bool
  | bool b => b
  | _ => false

/-- The items of an array. -/
def items : Value → List Value
  | arr vs => vs
  | _ => []

/-- The members of an object. -/
def members : Value → List (String × Value)
  | obj ms => ms
  | _ => []

/-- The item of an array at an index, or null. -/
def item (v : Value) (index : Nat) : Value := v.items.getD index null

/-- The texts that an array holds. -/
def texts (v : Value) : List String := v.items.map asText

/-- What a value is, unless it is null. -/
def ifGiven {α : Type} (v : Value) (read : Value → α) : Option α :=
  if v.isNull then none else some (read v)

/-- What a value is, or something else when it is null. -/
def orElse {α : Type} (v : Value) (usual : α) (read : Value → α) : α :=
  (v.ifGiven read).getD usual

end Gatewatch.Json.Value
