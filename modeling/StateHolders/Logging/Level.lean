import StateHolders.Error
import StateHolders.Event
import StateHolders.Text.Lowercase

/-!
# Names of levels

The words by which a configuration names a level. Case does not matter, and a warning has two
names.
-/

namespace StateHolders.Level

/-- The level that a word names. -/
def ofText? (s : String) : Option Level :=
  match Text.lowercase s with
  | "trace" => some .trace
  | "debug" => some .debug
  | "info" => some .info
  | "warn" => some .warn
  | "warning" => some .warn
  | "error" => some .error
  | _ => none

/-- No level has that name. -/
def invalid (s : String) : Error :=
  .configuration
    ("Invalid log level: " ++ s ++ ". Use trace, debug, info, warn, or error") none

/-- The level that a word names, or the error that there is none. -/
def parse (s : String) : Except Error Level :=
  match ofText? s with
  | some level => .ok level
  | none => .error (invalid s)

end StateHolders.Level
