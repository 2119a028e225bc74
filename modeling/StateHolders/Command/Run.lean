import StateHolders.Command.Arguments
import StateHolders.Command.Output
import StateHolders.Container

/-!
# Running a command

The report of `list` has a line for each holder on offer, with a mark at those that are disabled.
`resolve` assembles a container without modules, creates the holder that is bound under the very
name, and says what it reports; a name that is not bound is unknown, even if a broader holder could
serve it.
-/

namespace StateHolders.Command

/-- What comes of a command. -/
structure Outcome where
  /-- Success, or why it failed. -/
  result : Except Error Unit
  /-- The output. -/
  output : Output
  /-- The suppliers that were called. -/
  calls : Calls
  /-- What was reported. -/
  events : List Event

/-- The mark of a disabled holder. -/
def marker (config : Config) (name : String) : String :=
  if config.registry.isDisabled name then " (disabled)" else ""

/-- The lines of the report on the holders on offer. -/
def reportLines (catalogue : Catalogue) (config : Config) : List String :=
  "Registered state holders:" ::
    catalogue.listing.map fun (name, description) =>
      "  - " ++ name ++ ": " ++ description ++ marker config name

/-- The line about a holder that was created. -/
def resolvedLine (name : String) (h : Holder) : String :=
  "Resolved '" ++ name ++ "' -> " ++ h.descriptor.name

/-- Writes lines of a report. -/
def writeReport (o : Output) (calls : Calls) (events : List Event) (lines : List String) :
    Outcome :=
  let written := o.writeLines lines
  let result :=
    match written.2 with
    | none => .ok ()
    | some f => .error (Context.io.wrap "write report" f.toCause)
  ⟨result, written.1, calls, events⟩

/-- Creates the holder that is bound under a name. -/
def resolve (catalogue : Catalogue) (config : Config) (o : Output) (name : String) : Outcome :=
  let built := Container.build catalogue config []
  match built.1 with
  | .error e => ⟨.error e, o, .none, built.2⟩
  | .ok container =>
    match container.registry.descriptorNamed name with
    | none => ⟨.error (.unknownHolder name), o, .none, built.2⟩
    | some d =>
      let created := container.registry.create .none d
      let events := built.2 ++ created.events
      match created.result with
      | .error e => ⟨.error e, o, created.calls, events⟩
      | .ok h => writeReport o created.calls events [resolvedLine name h]

/-- Does what is asked for. -/
def run (catalogue : Catalogue) (config : Config) (o : Output) : Request → Outcome
  | .list => writeReport o .none [] (reportLines catalogue config)
  | .resolve name => resolve catalogue config o name

end StateHolders.Command
