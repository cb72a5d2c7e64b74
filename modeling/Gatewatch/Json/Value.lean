/-
JSON values. Numbers are integers or doubles, and the two are different values even when
they are equal as numbers. Objects hold their members in the order of their keys, each key
once; `Value.put` keeps that order.
-/
import Gatewatch.Text.Decimal

namespace Gatewatch.Json

/-- A number as a document writes it. -/
inductive Number where
  | int (n : Int)
  /-- A double, by its bits. -/
  | float (bits : UInt64)
deriving DecidableEq

/-- A JSON value. -/
inductive Value where
  | null
  | bool (b : Bool)
  | num (n : Number)
  | str (s : String)
  | arr (items : List Value)
  | obj (members : List (String × Value))

/-- Puts a member where its key belongs; a key that is there gets the new value. -/
def put (key : String) (value : Value) : List (String × Value) → List (String × Value)
  | [] => [(key, value)]
  | (k, v) :: rest =>
    if key < k then (key, value) :: (k, v) :: rest
    else if key = k then (key, value) :: rest
    else (k, v) :: put key value rest

namespace Value

/-- An object from its members in any order; of members with one key the last counts. -/
def object (members : List (String × Value)) : Value :=
  obj (members.foldl (fun ms m => put m.1 m.2 ms) [])

def ofInt (n : Int) : Value := num (.int n)

def ofNat (n : Nat) : Value := num (.int n)

/-- A list of texts. -/
def strings (items : List String) : Value := arr (items.map str)

/-- A value that may be missing. -/
def ofOption {α : Type} (f : α → Value) : Option α → Value
  | some a => f a
  | none => null

/-- The member of an object under a key. -/
def get? (v : Value) (key : String) : Option Value :=
  match v with
  | obj members => (members.find? (·.1 == key)).map (·.2)
  | _ => none

end Value

end Gatewatch.Json
