import StateHolders.Descriptor
import StateHolders.Error

/-!
# Holders and their suppliers

A state holder is an instance of a concrete type; the descriptor that it reports need not be the
one of its type. A supplier makes holders on demand. It may answer each call differently, so it is
a function of the number of calls before; `Calls` keeps that number for every binding.
-/

namespace StateHolders

/-- A concrete type of holders. -/
structure HolderType where
  /-- What tells the type from others. -/
  label : String
  /-- The descriptor under which holders of the type are asked for. -/
  descriptor : Descriptor

/-- An instance. -/
structure Holder where
  /-- What tells its concrete type from others. -/
  typeLabel : String
  /-- The descriptor that the instance reports. -/
  descriptor : Descriptor

/-- Whether the holder is of the type. -/
def Holder.isOf (h : Holder) (t : HolderType) : Bool := h.typeLabel == t.label

/-- Makes holders. -/
structure Supplier where
  /-- The answer to a call after so many others. -/
  outcome : Nat → Except Cause Holder

namespace Supplier

/-- A supplier that always answers the same. -/
def always (answer : Except Cause Holder) : Supplier := ⟨fun _ => answer⟩

/-- The answer to call `n` if each supplier but the last answers one call. -/
def outcomeInTurn (last : Supplier) : List Supplier → Nat → Except Cause Holder
  | [], n => last.outcome n
  | s :: _, 0 => s.outcome 0
  | _ :: rest, n + 1 => outcomeInTurn last rest n

/-- Suppliers that take turns: each answers one call, and the last all that remain. -/
def inTurn (before : List Supplier) (last : Supplier) : Supplier := ⟨outcomeInTurn last before⟩

end Supplier

/-- The names of the bindings whose suppliers were called, the latest call first. -/
structure Calls where
  /-- The names, one for each call. -/
  log : List String
deriving DecidableEq, Repr

namespace Calls

/-- No supplier was called. -/
def none : Calls := ⟨[]⟩

/-- How often the supplier bound to a name was called. -/
def count (c : Calls) (name : String) : Nat := c.log.count name

/-- One more call. -/
def record (c : Calls) (name : String) : Calls := ⟨name :: c.log⟩

/-- All calls together. -/
def total (c : Calls) : Nat := c.log.length

@[simp] theorem count_none (name : String) : none.count name = 0 := rfl

@[simp] theorem total_record (c : Calls) (name : String) :
    (c.record name).total = c.total + 1 := rfl

/-- A call adds one to the count of its own binding. -/
theorem count_record (c : Calls) (name other : String) :
    (c.record name).count other = c.count other + if name = other then 1 else 0 := by
  simp [count, record, List.count_cons]

end Calls

end StateHolders
