import StateHolders.Config
import StateHolders.Files.World
import StateHolders.Logging.Filter
import StateHolders.Logging.Level

/-!
# The log

The log of a run goes to the console and, if the configuration names one, to a file of the day. It
is installed once; a second installation fails, though it makes its file. An event is logged if the
filter lets it pass: the filter is the one that an environment variable spells, or else the one
that the level of the configuration spells.
-/

namespace StateHolders.Logging

/-- What a line of the log says. -/
inductive Body where
  /-- A plain text. -/
  | plain (text : String)
  /-- A record of fields, the message first. -/
  | record (fields : List (String × FieldValue))
deriving DecidableEq, Repr

/-- A line of the log. -/
structure Line where
  /-- The level of the event. -/
  level : Level
  /-- The part of the program that reported it. -/
  target : Target
  /-- What it says. -/
  body : Body
deriving DecidableEq, Repr

/-- A value in a plain line. -/
def shownValue : FieldValue → String
  | .shown text => text
  | .quoted text => Text.quoted text
  | .count n => toString n

/-- The text of a plain line: the message, and each field with its name. -/
def plainText (e : Event) : String :=
  e.fields.foldl (fun text (name, v) => text ++ " " ++ name ++ "=" ++ shownValue v) e.message

/-- The line of an event. -/
def Line.ofEvent (asRecord : Bool) (e : Event) : Line :=
  ⟨e.level, e.target,
    if asRecord then .record (("message", .shown e.message) :: e.fields) else .plain (plainText e)⟩

/-- An installed log. -/
structure Log where
  /-- Which events are logged. -/
  filter : Filter
  /-- Whether lines are records. -/
  asRecords : Bool
  /-- The place of the log file, if there is one. -/
  file : Option Location
deriving DecidableEq, Repr

/-- What a run has logged so far, and where. -/
structure Journal where
  /-- The surroundings of the run. -/
  world : World
  /-- The log, once it is installed. -/
  log : Option Log
  /-- The lines on the console. -/
  console : List Line
  /-- The log files with their lines. -/
  files : List (Location × List Line)

namespace Journal

/-- Nothing is logged yet. -/
def start (w : World) : Journal := ⟨w, none, [], []⟩

/-- Logs an event if a log is installed that lets it pass. -/
def emit (j : Journal) (e : Event) : Journal :=
  match j.log with
  | none => j
  | some log =>
    if log.filter.logs e then
      let line := Line.ofEvent log.asRecords e
      { j with
        console := j.console ++ [line]
        files := j.files.map fun (l, lines) =>
          if log.file = some l then (l, lines ++ [line]) else (l, lines) }
    else j

/-- Logs several events. -/
def emitAll (j : Journal) (es : List Event) : Journal := es.foldl emit j

/-- Notes a log file. -/
def openFile (j : Journal) (l : Location) : Journal :=
  if j.files.any fun file => file.1 = l then j else { j with files := j.files ++ [(l, [])] }

end Journal

/-- The variable that spells a filter. -/
def filterVariable : String := "VMF_LOG"

/-- The filter of a run: the one that the variable spells, or else that of the level. There is none
if the variable cannot be read. -/
def chosenFilter? (w : World) (level : String) : Option Filter :=
  match w.valueOf? filterVariable with
  | none => some (.ofTextLossy level)
  | some text =>
    match Filter.ofText text with
    | .ok f => some f
    | .error .malformed => some (.ofTextLossy level)
    | .error .torn => none

/-- The name of a log file without its date, if the path of the configuration has none. -/
def defaultStem : Name := Path.ofText "vmf"

/-- The directory of the log file of a path. -/
def logDirectory (p : Path) : Path :=
  match p.parent? with
  | none => Path.here
  | some [] => Path.here
  | some directory => directory

/-- The name of the log file of a path on a day: that of the path without its last extension, and
the date. -/
def logName (p : Path) (today : String) : Name :=
  (p.stem?).getD defaultStem ++ Path.ofText ("." ++ today)

/-- The path of the log file of a path on a day. -/
def logPath (p : Path) (today : String) : Path := (logDirectory p).join (logName p today)

/-- Makes the log file of the day in the directory of the path, and that directory. The name of the
file has to be a text. -/
def openLogFile (w : World) (p : Path) (today : String) : Except Failure (World × Location) :=
  match w.start (logPath p today) with
  | .error f => .error f
  | .ok s =>
    match w.makeDirectories s (logDirectory p).segments with
    | .error f => .error f
    | .ok (w, s) =>
      if (Text.ofUtf8? (logName p today)).isNone then .error .invalidName
      else
        match w.fileIn s (logName p today) with
        | .error f => .error f
        | .ok l => .ok (if (w.at? l).isNone then w.put l (.file []) else w, l)

/-- Why a run ends at once. -/
inductive Abort where
  /-- The log file cannot be made. -/
  | file (f : Failure)
  /-- The text of the filter would be cut inside a character. -/
  | filter

/-- What comes of an installation. -/
inductive Installation where
  /-- The run ends at once. -/
  | aborted (why : Abort)
  /-- The installation succeeded or failed, and the run goes on. -/
  | finished (result : Except Error Unit) (j : Journal)

/-- A log is installed already. -/
def alreadyInstalled : Error :=
  .configuration "Failed to install logger"
    (some (.plain "a global default trace dispatcher has already been set"))

/-- A log was installed. -/
def installedEvent (level : Level) : Event :=
  ⟨.info, .logging, "Logging initialized with level: " ++ level.word, []⟩

/-- The journal with the log file of a path, if there is one, and its place. -/
def openLog (j : Journal) (path : Option Path) (today : String) :
    Except Failure (Journal × Option Location) :=
  match path with
  | none => .ok (j, none)
  | some p =>
    match openLogFile j.world p today with
    | .error f => .error f
    | .ok (w, l) => .ok ({ j with world := w }.openFile l, some l)

/-- Installs the log that a configuration asks for. -/
def install (j : Journal) (config : LoggingConfig) (today : String) : Installation :=
  match Level.parse config.level with
  | .error e => .finished (.error e) j
  | .ok level =>
    match chosenFilter? j.world config.level with
    | none => .aborted .filter
    | some filter =>
      match openLog j config.fileOutput today with
      | .error f => .aborted (.file f)
      | .ok (j, file) =>
        match j.log with
        | some _ => .finished (.error alreadyInstalled) j
        | none =>
          let j := { j with log := some ⟨filter, config.jsonFormat, file⟩ }
          .finished (.ok ()) (j.emit (installedEvent level))

end StateHolders.Logging
