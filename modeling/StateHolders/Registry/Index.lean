import StateHolders.Dictionary

/-!
# Positions by name

The index of a registry finds the position of an entry by its name.
-/

namespace StateHolders

/-- A position for each name. -/
structure Index where
  /-- Names with their positions. -/
  positions : List (String × Nat)
deriving DecidableEq, Repr

namespace Index

/-- No name has a position. -/
def empty : Index := ⟨[]⟩

/-- The position of a name. -/
def get? (i : Index) (name : String) : Option Nat := Dictionary.get? name i.positions

/-- Whether a name has a position. -/
def contains (i : Index) (name : String) : Bool := (i.get? name).isSome

/-- Gives a name a position, in place of any that it had. -/
def insert (i : Index) (name : String) (position : Nat) : Index :=
  ⟨Dictionary.set name position i.positions⟩

@[simp] theorem get?_empty (name : String) : empty.get? name = none := rfl

/-- After an insertion the name has the new position, and other names are as before. -/
theorem get?_insert (i : Index) (name other : String) (position : Nat) :
    (i.insert name position).get? other =
      if name = other then some position else i.get? other := by
  by_cases h : name = other
  · subst h
    simp [insert, get?]
  · simp [insert, get?, h, Dictionary.get?_set_of_ne h]

end Index

end StateHolders
