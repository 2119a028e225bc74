import StateHolders.Files.Path
import StateHolders.Text.Shape

/-!
# Configuration

What a user can set: how the program logs, and which of the holders on offer are registered.
-/

namespace StateHolders

/-- How the program logs. -/
structure LoggingConfig where
  /-- The least severe level that is logged. -/
  level : String
  /-- Whether a log line is a record rather than a plain line. -/
  jsonFormat : Bool
  /-- Where a log file goes, if there is one; its last part names the file. -/
  fileOutput : Option Path
deriving DecidableEq, Repr

/-- Which holders are registered. -/
structure RegistryConfig where
  /-- Whether the holders on offer are registered. -/
  discover : Bool
  /-- The names of holders on offer that are left out. -/
  disabled : List String
deriving DecidableEq, Repr

/-- The whole configuration. -/
structure Config where
  /-- How the program logs. -/
  logging : LoggingConfig
  /-- Which holders are registered. -/
  registry : RegistryConfig
deriving DecidableEq, Repr

/-- Ordinary progress is logged in plain lines, and not to a file. -/
def LoggingConfig.default : LoggingConfig := ⟨"info", false, none⟩

/-- Every holder on offer is registered. -/
def RegistryConfig.default : RegistryConfig := ⟨true, []⟩

/-- The configuration where nothing is set. -/
def Config.default : Config := ⟨.default, .default⟩

/-- Whether a name is left out. -/
def RegistryConfig.isDisabled (c : RegistryConfig) (name : String) : Bool :=
  c.disabled.contains name

/-- How diagnostics show the logging part. -/
def LoggingConfig.shape (c : LoggingConfig) : Text.Shape :=
  .record "LoggingConfig"
    [.labelled "level" (.text c.level), .labelled "json_format" (.truth c.jsonFormat),
      .labelled "file_output" (.option (c.fileOutput.map fun p => .word (Text.quotedBytes p)))] true

/-- How diagnostics show the registry part. -/
def RegistryConfig.shape (c : RegistryConfig) : Text.Shape :=
  .record "RegistryConfig"
    [.labelled "discover" (.truth c.discover),
      .labelled "disabled" (.list (c.disabled.map .text))] true

/-- How diagnostics show the configuration. -/
def Config.shape (c : Config) : Text.Shape :=
  .record "AppConfig"
    [.labelled "logging" c.logging.shape, .labelled "registry" c.registry.shape] true

end StateHolders
