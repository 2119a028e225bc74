import StateHolders.Error

/-!
# Stacks of wrappings

On its way to whoever reports it a failure can be wrapped again and again: a context is added to it,
or it becomes the cause of an error with a message of its own. A wrapping takes the failure of a
result and leaves a success alone. What failed may be said by an action, which can look at a state
and change it.
-/

namespace StateHolders

variable {m : Type → Type} {α : Type}

/-- The ways to wrap a failure. -/
inductive Wrapping (m : Type → Type) where
  /-- A context is added to it. -/
  | add (context : Context) (what : String)
  /-- The general context is added to it, and an action says what failed. -/
  | addLazily (what : m String)
  /-- It is why a configuration cannot be used. -/
  | configuration (message : String)
  /-- It is why something outside failed. -/
  | infrastructure (message : String)
  /-- It is why a holder could not be made. -/
  | creation (requested : String)

namespace Wrapping

/-- Wraps the failure of a result. -/
def attach [Monad m] : Wrapping m → Except Cause α → m (Except Error α)
  | .add context what, result => pure (context.attach what result)
  | .addLazily what, result => Context.attachLazily what result
  | .configuration message, result =>
    pure (result.mapError fun cause => .configuration message (some cause))
  | .infrastructure message, result =>
    pure (result.mapError fun cause => .infrastructure message (some cause))
  | .creation requested, result => pure (result.mapError (.creation requested))

/-- Wraps the failure of a result several times. The error that one wrapping makes is the cause that
the next one wraps. -/
def attachAll [Monad m] : List (Wrapping m) → Except Cause α → m (Except Cause α)
  | [], result => pure result
  | w :: rest, result => do
    let wrapped ← w.attach result
    attachAll rest (wrapped.mapError .error)

end Wrapping

end StateHolders
