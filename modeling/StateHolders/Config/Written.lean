import StateHolders.Config
import StateHolders.Toml.Written

/-!
# Written configurations

A configuration is written as a TOML document of two tables. A path that encodes no text cannot
be written.
-/

namespace StateHolders.Config

/-- A line with a key and a written value. -/
def line (key : String) (value : List Char) : List Char :=
  key.toList ++ " = ".toList ++ value ++ ['\n']

/-- The text of the path of a log file, if it has one. -/
def LoggingConfig.fileText? (c : LoggingConfig) : Option (Option String) :=
  match c.fileOutput with
  | none => some none
  | some p => (Text.ofUtf8? p).map some

/-- The document of a configuration. -/
def document? (c : Config) : Option (List Char) :=
  (LoggingConfig.fileText? c.logging).map fun fileText =>
    "[logging]\n".toList ++
      line "level" (Toml.writtenText c.logging.level) ++
      line "json_format" (Toml.writtenTruth c.logging.jsonFormat) ++
      (match fileText with
        | none => []
        | some s => line "file_output" (Toml.writtenText s)) ++
      "\n[registry]\n".toList ++
      line "discover" (Toml.writtenTruth c.registry.discover) ++
      line "disabled" (Toml.writtenTexts c.registry.disabled)

end StateHolders.Config
