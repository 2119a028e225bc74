import StateHolders.Config.Environment
import StateHolders.Config.Reading
import StateHolders.Config.Written
import StateHolders.Files.World
import StateHolders.Logging.Level
import StateHolders.Toml.Document

/-!
# Loading and saving a configuration

A configuration is laid together from the defaults, one file, and the environment, each over the
one before. The file is the one asked for, if it exists, or else, if none was asked for, the first
that exists of three default places. What comes out is checked: the level has to have a name, and
no disabled name may be blank.
-/

namespace StateHolders

/-- How a configuration is loaded. -/
structure Loader where
  /-- The file that is asked for. -/
  path : Option Path
  /-- What the names of environment variables begin with. -/
  prefixName : String
deriving DecidableEq, Repr

/-- Why no configuration comes out. -/
inductive LoadFailure where
  /-- The file is no TOML document, or one that has a reserved key. -/
  | unreadable
  /-- The text of an environment variable would be cut inside a character. -/
  | torn
  /-- A setting is of the wrong kind. -/
  | mismatch (m : Config.Mismatch)
  /-- What was read breaks a rule of the configuration. -/
  | invalid (e : Error)

/-- What a failure to read the settings is reported under. -/
def LoadFailure.context : String := "Failed to extract configuration"

/-- The error that reports the failure. -/
def LoadFailure.toError : LoadFailure → Error
  | .unreadable =>
    Context.configuration.wrap context (.plain "the configuration file is not a TOML document")
  | .torn =>
    Context.configuration.wrap context (.plain "a text in the environment ends in half a character")
  | .mismatch m => Context.configuration.wrap context (.plain m.message)
  | .invalid e => e

/-- A disabled name is blank. -/
def Config.blankDisabledName : Error :=
  .configuration "Disabled state holder names cannot be empty" none

/-- Checks the rules of a configuration, the level first. -/
def Config.check (c : Config) : Except Error Config :=
  match Level.parse c.logging.level with
  | .error e => .error e
  | .ok _ =>
    if c.registry.disabled.any Text.isAllBlank then .error Config.blankDisabledName else .ok c

/-- The configuration that a file and the environment give over the defaults. -/
def Config.ofLayers (file environment : Config.Fields) : Except LoadFailure Config :=
  let defaults := Config.toFields .defaults .default
  let merged := Config.Value.fieldsOnto (Config.Value.fieldsOnto defaults file) environment
  match Config.ofFields merged with
  | .error m => .error (.mismatch m)
  | .ok c =>
    match c.check with
    | .error e => .error (.invalid e)
    | .ok c => .ok c

namespace Loader

/-- The loader that looks in the default places. -/
def default : Loader := ⟨none, "VMF"⟩

/-- The name of a configuration file. -/
def fileName : Path := Path.ofText "vmf.toml"

/-- The name of the directory that can hold it. -/
def directoryName : Path := Path.ofText "vmf"

/-- The home directory of a user: the one in the environment, or else that of the account. An empty
path is none. -/
def homeDirectory? (w : World) : Option Path :=
  let given := (w.valueOf? "HOME").map Path.ofText
  (given.filter (· ≠ [])).or (w.accountHome.filter (· ≠ []))

/-- The directory for the configuration of a user. -/
def userDirectory? (w : World) : Option Path :=
  let given := (w.valueOf? "XDG_CONFIG_HOME").map Path.ofText
  match given.filter Path.isAbsolute with
  | some p => some p
  | none => (homeDirectory? w).map fun home => home.join (Path.ofText ".config")

/-- The default places, in the order in which they are tried. -/
def defaultPaths (w : World) : List Path :=
  match w.directory.place? with
  | none => []
  | some l =>
    let base := Path.ofLocation l
    [base.join fileName, (base.join directoryName).join fileName] ++
      (userDirectory? w).toList.map fun p => (p.join directoryName).join fileName

/-- Something that loading reports. -/
def event (level : Level) (message : String) : Event :=
  ⟨level, .logging, message, []⟩

/-- A file was found. -/
def foundEvent (p : Path) : Event :=
  event .info ("Configuration loaded from " ++ Text.shownBytes p)

/-- The file that was asked for was not found. -/
def missingEvent (p : Path) : Event :=
  event .warn ("Configuration file not found: " ++ Text.shownBytes p)

/-- The file that is used, and what is reported about it. -/
def chosen (l : Loader) (w : World) : Option Path × List Event :=
  match l.path with
  | some p => if w.pathExists p then (some p, [foundEvent p]) else (none, [missingEvent p])
  | none =>
    match (defaultPaths w).find? w.pathExists with
    | some p => (some p, [foundEvent p])
    | none => (none, [])

/-- A place and the places above it. -/
def upwards (l : Location) : List Location :=
  (List.range (l.length + 1)).map fun n => l.take (l.length - n)

/-- The paths that a path can mean: itself if it is absolute, or else the same path seen from the
working directory and from each directory above it. -/
def candidates (w : World) (p : Path) : List Path :=
  if p.isAbsolute then [p]
  else
    match w.directory.place? with
    | none => []
    | some l => (upwards l).map fun base => (Path.ofLocation base).join p

/-- The file that a path means, with its absolute path; what is no file is passed over. -/
def search (w : World) (p : Path) : Option (Path × List UInt8) :=
  (candidates w p).findSome? fun whole => (w.content? whole).map fun content => (whole, content)

/-- The fields of a document, with their origin. -/
def documentFields (o : Config.Origin) (content : List UInt8) : Except LoadFailure Config.Fields :=
  match ((Text.ofUtf8? content).bind Toml.parse?).bind (Config.Value.fieldsOfToml? o) with
  | none => .error .unreadable
  | some fields => .ok fields

/-- The layer of the file that is used; without a file it is empty. -/
def fileFields (w : World) : Option Path → Except LoadFailure Config.Fields
  | none => .ok []
  | some p =>
    match search w p with
    | none => .ok []
    | some (found, content) => documentFields (.file (found.shownFrom w.directory.place?)) content

/-- Loads a configuration. An environment that cannot be read counts before the file. -/
def load (l : Loader) (w : World) : Except LoadFailure Config :=
  match Config.environmentFields? l.prefixName w.environment with
  | none => .error .torn
  | some environment =>
    match fileFields w (l.chosen w).1 with
    | .error e => .error e
    | .ok file => Config.ofLayers file environment

/-- The absolute paths that loading can look at. -/
def consulted (l : Loader) (w : World) : List Path :=
  match l.path with
  | some p => candidates w p
  | none => defaultPaths w

/-- What loading reports. -/
def events (l : Loader) (w : World) : List Event := (l.chosen w).2

end Loader

/-- What a path that cannot be written is reported as. -/
def Config.unwritablePath : Cause := .plain "path contains invalid UTF-8 characters"

/-- Writes a configuration to a file, and says what became of it. The text of the file is made
before anything is written. -/
def Config.save (c : Config) (w : World) (p : Path) : World × Except Error Unit :=
  match c.document? with
  | none =>
    (w, .error (Context.general.wrap "Failed to serialize config to TOML" Config.unwritablePath))
  | some text =>
    let (w', written) := w.write p (Text.utf8 (String.ofList text))
    (w', written.mapError fun f => Context.io.wrap "Failed to write config file" f.toCause)

end StateHolders
