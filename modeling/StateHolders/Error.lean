import StateHolders.Text.Shape

/-!
# Errors

Four things can go wrong: a configuration is incomplete or invalid, a supplier fails, a supplier
gives a holder of another type, or the world outside fails. An error keeps what caused it, and
`sources` lists the messages along that chain, outermost first. The wording of every message is
here.
-/

namespace StateHolders

mutual

/-- What this library reports. -/
inductive Error where
  /-- The configuration, or what is bound, does not allow the request. -/
  | configuration (message : String) (source : Option Cause)
  /-- The supplier failed while it made the holder that was asked for. -/
  | creation (requested : String) (source : Cause)
  /-- Typed access produced a holder of another type. -/
  | typeMismatch (requested produced : String)
  /-- The world outside failed. -/
  | infrastructure (message : String) (source : Option Cause)

/-- Why an error arose. -/
inductive Cause where
  /-- Another error of this library. -/
  | error (e : Error)
  /-- An error from elsewhere: its message, how diagnostics show it, and its own cause. -/
  | foreign (message : String) (shown : Text.Shape) (source : Option Cause)

end

mutual

/-- The message of an error. Only a failed creation repeats the message of its cause. -/
def Error.message : Error → String
  | .configuration message _ => "Configuration error: " ++ message
  | .creation requested source =>
    "Failed to create state holder '" ++ requested ++ "': " ++ source.message
  | .typeMismatch requested produced =>
    "State holder type mismatch: requested '" ++ requested ++ "', produced '" ++ produced ++ "'"
  | .infrastructure message _ => "Infrastructure error: " ++ message

/-- The message of a cause. -/
def Cause.message : Cause → String
  | .error e => e.message
  | .foreign message _ _ => message

end

/-- The cause of an error, if it has one. -/
def Error.source : Error → Option Cause
  | .configuration _ source => source
  | .creation _ source => some source
  | .typeMismatch _ _ => none
  | .infrastructure _ source => source

/-- The cause of a cause, if it has one. -/
def Cause.source : Cause → Option Cause
  | .error e => e.source
  | .foreign _ _ source => source

mutual

/-- The causes of an error, outermost first. -/
def Error.chain : Error → List Cause
  | .configuration _ source => optionalChain source
  | .creation _ source => source :: source.chain
  | .typeMismatch _ _ => []
  | .infrastructure _ source => optionalChain source

/-- The causes of a cause, outermost first. -/
def Cause.chain : Cause → List Cause
  | .error e => e.chain
  | .foreign _ _ source => optionalChain source

/-- A cause, if there is one, and its causes. -/
def optionalChain : Option Cause → List Cause
  | none => []
  | some c => c :: c.chain

end

/-- The chain of an error is its cause with the chain of that. -/
theorem Error.chain_eq (e : Error) : e.chain = optionalChain e.source := by
  cases e with
  | configuration message source => rfl
  | creation requested source => rfl
  | typeMismatch requested produced => rfl
  | infrastructure message source => rfl

/-- The chain of a cause is its own cause with the chain of that. -/
theorem Cause.chain_eq (c : Cause) : c.chain = optionalChain c.source := by
  cases c with
  | error e => exact e.chain_eq
  | foreign message shown source => rfl

/-- The messages along the chain of causes, outermost first. -/
def Error.sources (e : Error) : List String := e.chain.map Cause.message

mutual

/-- How diagnostics show an error. -/
def Error.shape : Error → Text.Shape
  | .configuration message source =>
    .record "Configuration"
      [.labelled "message" (.text message), .labelled "source" (optionalShape source)] true
  | .creation requested source =>
    .record "FactoryInvocation"
      [.labelled "descriptor" (.text requested), .labelled "source" source.shape] true
  | .typeMismatch requested produced =>
    .record "HolderTypeMismatch"
      [.labelled "requested" (.text requested), .labelled "produced" (.text produced)] true
  | .infrastructure message source =>
    .record "Infrastructure"
      [.labelled "message" (.text message), .labelled "source" (optionalShape source)] true

/-- How diagnostics show a cause. -/
def Cause.shape : Cause → Text.Shape
  | .error e => e.shape
  | .foreign _ shown _ => shown

/-- How diagnostics show a cause that may be absent. -/
def optionalShape : Option Cause → Text.Shape
  | none => .option none
  | some c => .option (some c.shape)

end

/-- The kinds of error. -/
inductive ErrorKind where
  /-- The configuration, or what is bound, does not allow the request. -/
  | configuration
  /-- The supplier failed. -/
  | creation
  /-- Typed access produced a holder of another type. -/
  | typeMismatch
  /-- The world outside failed. -/
  | infrastructure
deriving DecidableEq, Repr

namespace Error

/-- The kind of an error. -/
def kind : Error → ErrorKind
  | .configuration _ _ => .configuration
  | .creation _ _ => .creation
  | .typeMismatch _ _ => .typeMismatch
  | .infrastructure _ _ => .infrastructure

/-- No entry serves the request. -/
def unknownHolder (requested : String) : Error :=
  .configuration ("unknown state holder type '" ++ requested ++ "'") none

/-- A name is bound a second time. -/
def duplicateBinding (name : String) : Error :=
  .configuration ("state holder type '" ++ name ++ "' is bound more than once") none

/-- Whether the error reports an invalid or incomplete configuration. -/
def isConfiguration : Error → Bool
  | .configuration _ _ => true
  | _ => false

/-- Whether the error reports a failed supplier. -/
def isCreation : Error → Bool
  | .creation _ _ => true
  | _ => false

end Error

/-- An error from elsewhere that is only a text. -/
def Cause.plain (message : String) : Cause := .foreign message (.text message) none

/-! ## Adding context

What failed is said before the message of the cause, and the cause is kept. -/

/-- The ways to add context to a failure. -/
inductive Context where
  /-- Something outside failed. -/
  | general
  /-- Reading or writing failed. -/
  | io
  /-- A configuration could not be used. -/
  | configuration
deriving DecidableEq, Repr

namespace Context

/-- The error that wraps a cause in a context. -/
def wrap : Context → String → Cause → Error
  | .general, what, cause => .infrastructure (what ++ ": " ++ cause.message) (some cause)
  | .io, what, cause => .infrastructure ("I/O: " ++ what ++ ": " ++ cause.message) (some cause)
  | .configuration, what, cause => .configuration (what ++ ": " ++ cause.message) (some cause)

/-- Wraps the failure of a result; a success stays as it is. -/
def attach {α : Type} (context : Context) (what : String) : Except Cause α → Except Error α
  | .ok a => .ok a
  | .error cause => .error (context.wrap what cause)

/-- Wraps the failure of a result in the general context. An action says what failed. Only a failure
has it carried out; a success stays as it is. -/
def attachLazily {m : Type → Type} [Monad m] {α : Type} (what : m String) :
    Except Cause α → m (Except Error α)
  | .ok a => pure (.ok a)
  | .error cause => do return .error (general.wrap (← what) cause)

end Context

end StateHolders
