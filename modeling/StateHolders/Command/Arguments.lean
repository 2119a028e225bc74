import StateHolders.Command.Help
import StateHolders.Files.Path

/-!
# Arguments of the command line

The arguments name a command, `list` or `resolve` with the name of a holder, and the file to load
the configuration from, which may stand before or after the command. The value of the option
`-c` can stand in an argument of its own; it is judged only when the next part of the line has
shown that it is complete.
-/

namespace StateHolders.Command

/-- What the program is asked to do. -/
inductive Request where
  /-- List the holders on offer. -/
  | list
  /-- Create a holder of the name. -/
  | resolve (name : String)
deriving DecidableEq, Repr

/-- A line that could be understood. -/
structure Arguments where
  /-- The configuration file, if one is named. -/
  config : Option String
  /-- What to do. -/
  request : Request
deriving DecidableEq, Repr

/-- Why a line cannot be used. -/
inductive Refusal where
  /-- An option has no value, or an empty one. -/
  | invalidValue
  /-- An option has a value that it cannot have. -/
  | tooManyValues
  /-- An option is given twice. -/
  | argumentConflict
  /-- There is no such argument. -/
  | unknownArgument
  /-- There is no such command. -/
  | invalidSubcommand
  /-- The command is missing. -/
  | missingSubcommand
  /-- A name is missing. -/
  | missingRequiredArgument
deriving DecidableEq, Repr

/-- Why nothing is run. -/
inductive Stop where
  /-- Help was asked for. -/
  | help (text : String)
  /-- The version was asked for. -/
  | version (text : String)
  /-- The line is empty, which help answers. -/
  | helpInstead (text : String)
  /-- The line cannot be used. -/
  | refused (why : Refusal)
deriving DecidableEq, Repr

/-- The exit code of a program that stops. -/
def Stop.exitCode : Stop → Nat
  | .help _ => 0
  | .version _ => 0
  | .helpInstead _ => 2
  | .refused _ => 2

/-! ## The option -/

/-- What is known of the option for the configuration file. -/
structure ConfigOption where
  /-- The value, once it is judged. -/
  value : Option String
  /-- An option that is not judged yet: `some none` waits for its value. -/
  pending : Option (Option String)
deriving DecidableEq, Repr

namespace ConfigOption

/-- The option is not given. -/
def absent : ConfigOption := ⟨none, none⟩

/-- Whether the option waits for its value. -/
def isWaiting (o : ConfigOption) : Bool := o.pending == some none

/-- Judges a value. -/
def accept (o : ConfigOption) (v : String) : Except Stop ConfigOption :=
  if o.value.isSome then .error (.refused .argumentConflict)
  else if v = "" then .error (.refused .invalidValue)
  else .ok ⟨some v, none⟩

/-- Judges what is pending. -/
def settle (o : ConfigOption) : Except Stop ConfigOption :=
  match o.pending with
  | none => .ok o
  | some none => .error (.refused .invalidValue)
  | some (some v) => accept { o with pending := none } v

/-- The option with its value in the same argument. -/
def attached (o : ConfigOption) (v : String) : Except Stop ConfigOption := do
  let o ← o.settle
  o.accept v

/-- The option with its value to come. -/
def announced (o : ConfigOption) : Except Stop ConfigOption := do
  let o ← o.settle
  return { o with pending := some none }

/-- The value to come. -/
def supplied (o : ConfigOption) (v : String) : ConfigOption := { o with pending := some (some v) }

end ConfigOption

/-! ## Flags -/

/-- An argument by its form. -/
inductive Word where
  /-- Two hyphens: no option follows. -/
  | endOfOptions
  /-- A name after two hyphens, and a value after a sign of equality. -/
  | long (name : String) (value : Option String)
  /-- Letters after one hyphen. -/
  | short (letters : List Char)
  /-- Anything else. -/
  | plain
deriving DecidableEq, Repr

/-- The form of an argument. -/
def Word.of (argument : String) : Word :=
  match argument.toList with
  | ['-', '-'] => .endOfOptions
  | '-' :: '-' :: rest =>
    .long (String.ofList (rest.takeWhile (· != '=')))
      (match rest.dropWhile (· != '=') with
        | [] => none
        | _ :: value => some (String.ofList value))
  | '-' :: c :: rest => .short (c :: rest)
  | _ => .plain

/-- Stops with help, once what is pending is judged. -/
def stopForHelp (started : Option String) (topic : Topic) (o : ConfigOption) :
    Except Stop ConfigOption := do
  let _ ← o.settle
  throw (.help (topic.text started))

/-- Stops with the version, once what is pending is judged. Only the program has a version. -/
def stopForVersion (topic : Topic) (o : ConfigOption) : Except Stop ConfigOption :=
  if topic = .program then do
    let _ ← o.settle
    throw (.version versionText)
  else throw (.refused .unknownArgument)

/-- Takes an argument with two hyphens. -/
def takeLong (started : Option String) (topic : Topic) (o : ConfigOption) (name : String)
    (value : Option String) : Except Stop ConfigOption :=
  match name, value with
  | "config", some v => o.attached v
  | "config", none => o.announced
  | "help", none => stopForHelp started topic o
  | "help", some _ => throw (.refused .tooManyValues)
  | "version", none => stopForVersion topic o
  | "version", some _ =>
    throw (.refused (if topic = .program then .tooManyValues else .unknownArgument))
  | _, _ => throw (.refused .unknownArgument)

/-- Takes letters after a hyphen; the first of them decides. -/
def takeShort (started : Option String) (topic : Topic) (o : ConfigOption) :
    List Char → Except Stop ConfigOption
  | ['c'] => o.announced
  | 'c' :: '=' :: value => o.attached (String.ofList value)
  | 'c' :: value => o.attached (String.ofList value)
  | 'h' :: _ => stopForHelp started topic o
  | 'V' :: _ => stopForVersion topic o
  | _ => throw (.refused .unknownArgument)

/-! ## Lines -/

/-- Reads what follows a command. `name` is the name of a holder that was given; after the end of
the options every argument is plain. -/
def readCommand (started : Option String) (topic : Topic) (o : ConfigOption) (name : Option String)
    (plainOnly : Bool) : List String → Except Stop (ConfigOption × Option String)
  | [] => do
    let o ← o.settle
    return (o, name)
  | a :: rest =>
    let takeName : Except Stop (ConfigOption × Option String) :=
      if topic = .resolve ∧ name.isNone then do
        let o ← o.settle
        readCommand started topic o (some a) plainOnly rest
      else throw (.refused .unknownArgument)
    if plainOnly then takeName
    else
      match Word.of a with
      | .endOfOptions => readCommand started topic o name true rest
      | .long long value => do
        let o ← takeLong started topic o long value
        readCommand started topic o name false rest
      | .short letters => do
        let o ← takeShort started topic o letters
        readCommand started topic o name false rest
      | .plain =>
        if o.isWaiting then readCommand started topic (o.supplied a) name false rest
        else takeName

/-- Stops with help on the topic that words name. -/
def helpOn (started : Option String) (topic : Topic) : List String → Stop
  | [] => .help (topic.text started)
  | w :: rest =>
    match topic, Topic.ofWord? w with
    | .program, some t => helpOn started t rest
    | _, _ => .refused .invalidSubcommand

/-- The arguments of a command that was read; an option after the command counts more than one
before it. -/
def finish (topic : Topic) (outer inner : ConfigOption) (name : Option String) :
    Except Stop Arguments := do
  match topic, name with
  | .resolve, none => throw (.refused .missingRequiredArgument)
  | .resolve, some name => do
    let outer ← outer.settle
    return ⟨inner.value <|> outer.value, .resolve name⟩
  | _, _ => do
    let outer ← outer.settle
    return ⟨inner.value <|> outer.value, .list⟩

/-- Reads the arguments of the program. -/
def readProgram (started : Option String) (o : ConfigOption) (plainOnly : Bool) :
    List String → Except Stop Arguments
  | [] => do
    let o ← o.settle
    if o.value.isNone then throw (.helpInstead (Topic.program.text started))
    else throw (.refused .missingSubcommand)
  | a :: rest =>
    if plainOnly then
      throw (.refused (if (Topic.ofWord? a).isSome then .unknownArgument else .invalidSubcommand))
    else
      match (if o.isWaiting then none else Topic.ofWord? a) with
      | some .help => throw (helpOn started .program rest)
      | some topic => do
        let (inner, name) ← readCommand started topic .absent none false rest
        finish topic o inner name
      | none =>
        match Word.of a with
        | .endOfOptions => readProgram started o true rest
        | .long long value => do
          let o ← takeLong started .program o long value
          readProgram started o false rest
        | .short letters => do
          let o ← takeShort started .program o letters
          readProgram started o false rest
        | .plain =>
          if o.isWaiting then readProgram started (o.supplied a) false rest
          else throw (.refused .invalidSubcommand)

/-- The name under which the program was started, if its path ends in a name. -/
def startedAs? (argument : String) : Option String :=
  (Path.ofText argument).fileName?.bind Text.ofUtf8?

/-- Reads a whole line, which begins with the path of the program. -/
def readLine : List String → Except Stop Arguments
  | [] => readProgram none .absent false []
  | a :: rest => readProgram (startedAs? a) .absent false rest

end StateHolders.Command
