/-!
# Events

What a run reports while it works. An event has a level, the part of the program that it comes
from, a message, and named fields.
-/

namespace StateHolders

/-- How severe an event is. -/
inductive Level where
  /-- The finest detail. -/
  | trace
  /-- Details of the work. -/
  | debug
  /-- Ordinary progress. -/
  | info
  /-- Something that may be wrong. -/
  | warn
  /-- Something that is wrong. -/
  | error
deriving DecidableEq, Repr

namespace Level

/-- The levels by rising severity. -/
def severity : Level → Nat
  | .trace => 0
  | .debug => 1
  | .info => 2
  | .warn => 3
  | .error => 4

/-- The word for the level in messages and logs. -/
def word : Level → String
  | .trace => "TRACE"
  | .debug => "DEBUG"
  | .info => "INFO"
  | .warn => "WARN"
  | .error => "ERROR"

end Level

/-- The parts of the program that report something. -/
inductive Target where
  /-- The creation of holders. -/
  | creation
  /-- The discovery of the holders on offer. -/
  | discovery
  /-- The assembly of a container. -/
  | assembly
  /-- The configuration and the log itself. -/
  | logging
deriving DecidableEq, Repr

/-- The path by which logs and their filters name a part of the program. -/
def Target.path : Target → String
  | .creation => "vmf_application::factory"
  | .discovery => "vmf_application::registry::builder"
  | .assembly => "vmf_infrastructure::di::bootstrap"
  | .logging => "vmf_infrastructure::logging"

/-- The value of a field. -/
inductive FieldValue where
  /-- A text as a log line shows it. -/
  | shown (text : String)
  /-- A text that a log line puts in quotation marks. -/
  | quoted (text : String)
  /-- A number. -/
  | count (n : Nat)
deriving DecidableEq, Repr

/-- Something that a run reports. -/
structure Event where
  /-- How severe it is. -/
  level : Level
  /-- The part of the program that reports it. -/
  target : Target
  /-- What is reported. -/
  message : String
  /-- Named details, in the order of the report. -/
  fields : List (String × FieldValue)
deriving DecidableEq, Repr

end StateHolders
