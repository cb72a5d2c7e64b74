/-
Notes: what the program tells its log. A computation that may leave notes is a value beside
the list of them, the earliest first; `Noted.value` forgets the notes.
-/

namespace Gatewatch

/-- How much a note matters, from errors down to details. -/
inductive Level where
  | error
  | warn
  | info
  | debug
deriving DecidableEq, Repr

/-- The rank of a level; a log that shows a level shows all of lower rank. -/
def Level.rank : Level → Nat
  | error => 1
  | warn => 2
  | info => 3
  | debug => 4

/-- The word of a level. -/
def Level.text : Level → String
  | error => "ERROR"
  | warn => "WARN"
  | info => "INFO"
  | debug => "DEBUG"

/-- One note. -/
structure Note where
  level : Level
  text : String
deriving DecidableEq, Repr

/-- A value, and the notes left on the way to it. -/
structure Noted (α : Type) where
  value : α
  notes : List Note

namespace Noted

instance : Monad Noted where
  pure a := ⟨a, []⟩
  bind x f := ⟨(f x.value).value, x.notes ++ (f x.value).notes⟩

@[simp] theorem value_pure {α : Type} (a : α) : (pure a : Noted α).value = a := rfl

@[simp] theorem value_bind {α β : Type} (x : Noted α) (f : α → Noted β) :
    (x >>= f).value = (f x.value).value := rfl

@[simp] theorem value_map {α β : Type} (f : α → β) (x : Noted α) :
    (f <$> x).value = f x.value := rfl

/-- Notes are appended in order, so computations may be regrouped at will. -/
instance : LawfulMonad Noted :=
  LawfulMonad.mk' Noted
    (fun x => by
      show (⟨x.value, x.notes ++ []⟩ : Noted _) = x
      rw [List.append_nil])
    (fun _ _ => rfl)
    (fun x f g => by
      show (⟨_, (x.notes ++ (f x.value).notes) ++ _⟩ : Noted _)
        = ⟨_, x.notes ++ ((f x.value).notes ++ _)⟩
      rw [List.append_assoc]
      rfl)

end Noted

/-- Leaves a note. -/
def note (level : Level) (text : String) : Noted Unit := ⟨(), [⟨level, text⟩]⟩

end Gatewatch
