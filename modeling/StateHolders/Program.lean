import StateHolders.Command.Run
import StateHolders.Config.Loader
import StateHolders.Logging.Log

/-!
# The program

The program reads its arguments, loads the configuration, installs the log, and runs the command.
It stops at the first of these steps that fails: with code 2 if the arguments cannot be used, with
101 if the log file cannot be made or a text would be cut inside a character, and with 1 for every
other error.
-/

namespace StateHolders.Program

/-- The holder that needs nothing and does nothing. -/
def nullType : HolderType := ⟨"null", ⟨"null", [.root "state_holder"]⟩⟩

/-- The holders that the program itself offers. -/
def catalogue : Catalogue :=
  ⟨[⟨nullType.descriptor, "Stateless holder for diagnostics and smoke tests",
    .always (.ok ⟨nullType.label, nullType.descriptor⟩)⟩]⟩

/-- Why the program failed. -/
inductive Problem where
  /-- No configuration was loaded. -/
  | load (f : LoadFailure)
  /-- A later step failed. -/
  | error (e : Error)

/-- The error that is reported. -/
def Problem.toError : Problem → Error
  | .load f => f.toError
  | .error e => e

/-- What a run of the program leaves behind. -/
structure Outcome where
  /-- The exit code. -/
  code : Nat
  /-- The log on the console and in files. -/
  journal : Logging.Journal
  /-- What is written to the console after the log. -/
  output : String
  /-- What stopped the program before it began. -/
  stop : Option Command.Stop
  /-- Why it failed. -/
  problem : Option Problem

/-- The loader that the program uses. -/
def loader (config : Option String) : Loader :=
  { Loader.default with path := config.map Path.ofText }

/-- The configuration that the program works with, if it comes that far. -/
def config? (w : World) (arguments : List String) : Option Config :=
  match Command.readLine (Command.programName :: arguments) with
  | .error _ => none
  | .ok line => ((loader line.config).load w).toOption

/-- The absolute paths of configuration files that a run can look at. -/
def consultedForConfig (w : World) (arguments : List String) : List Path :=
  match Command.readLine (Command.programName :: arguments) with
  | .error _ => []
  | .ok line => (loader line.config).consulted w

/-- The absolute path of the log file, if there is one. -/
def consultedForLog (w : World) (arguments : List String) (today : String) : List Path :=
  match (config? w arguments).bind fun c => c.logging.fileOutput with
  | none => []
  | some p =>
    [(Path.ofLocation (w.directory.place?.getD [])).join (Logging.logPath p today)]

/-- Runs the program in some surroundings, on the arguments after its name. -/
def run (w : World) (arguments : List String) (today : String) : Outcome :=
  let journal := Logging.Journal.start w
  match Command.readLine (Command.programName :: arguments) with
  | .error stop =>
    let text :=
      match stop with
      | .help text => text
      | .version text => text
      | _ => ""
    ⟨stop.exitCode, journal, text, some stop, none⟩
  | .ok line =>
    match (loader line.config).load w with
    | .error .torn => ⟨101, journal, "", none, none⟩
    | .error f => ⟨1, journal, "", none, some (.load f)⟩
    | .ok config =>
      match Logging.install journal config.logging today with
      | .aborted _ => ⟨101, journal, "", none, none⟩
      | .finished (.error e) journal => ⟨1, journal, "", none, some (.error e)⟩
      | .finished (.ok ()) journal =>
        let outcome := Command.run catalogue config .unlimited line.request
        let journal := journal.emitAll outcome.events
        match outcome.result with
        | .error e => ⟨1, journal, outcome.output.text, none, some (.error e)⟩
        | .ok () => ⟨0, journal, outcome.output.text, none, none⟩

end StateHolders.Program
