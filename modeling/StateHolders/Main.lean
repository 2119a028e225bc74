import StateHolders.Logging.Written
import StateHolders.Program
import Std.Time.Format

/-!
# The command

The outer layer of the program. It looks at what a run can see of its surroundings, lets the
library decide what happens, and carries that out: lines on the console, messages on the error
output, lines in log files, and an exit code.
-/

namespace StateHolders.Main

/-- The environment variables, in their order. -/
def environment : IO (List (String × String)) := do
  let bytes ← IO.FS.readBinFile "/proc/self/environ"
  let parts := (Text.shownBytes bytes.data.toList).splitOn "\x00"
  return parts.filterMap fun part =>
    match part.splitOn "=" with
    | name :: first :: more => some (name, String.intercalate "=" (first :: more))
    | _ => none

/-- The number of the account for which a process runs, in what the system says of the process. -/
def accountNumber? (status : String) : Option String :=
  (status.splitOn "\n").findSome? fun line =>
    match line.splitOn "\t" with
    | "Uid:" :: number :: _ => some number
    | _ => none

/-- The home directory of the account with some number, in a list of accounts. -/
def homeOf? (accounts number : String) : Option Path :=
  (accounts.splitOn "\n").findSome? fun line =>
    match line.splitOn ":" with
    | [_, _, n, _, _, home, _] => if n = number then some (Path.ofText home) else none
    | _ => none

/-- The home directory of the account for which the program runs. -/
def accountHome : IO (Option Path) := do
  try
    let status ← IO.FS.readFile "/proc/self/status"
    let accounts ← IO.FS.readFile "/etc/passwd"
    return (accountNumber? status).bind (homeOf? accounts)
  catch _ => return none

/-- The working directory. Of one that was removed nothing more can be known. -/
def directory : IO Standing := do
  try
    return ⟨(Path.ofText (toString (← IO.currentDir))).steps, 0⟩
  catch _ => return ⟨[], 1⟩

/-- Looks at what a place holds. -/
def probe (w : World) (l : Location) : IO World := do
  match w.at? l, Text.ofUtf8? (Path.ofLocation l) with
  | none, some path =>
    try
      let content ← IO.FS.readBinFile path
      return w.put l (.file content.data.toList)
    catch _ =>
      try
        let entry := (← IO.currentDir) / path
        if ← entry.isDir then return w.put l .directory else return w
      catch _ => return w
  | _, _ => return w

/-- Looks at every place on the way of some absolute paths. -/
def look (w : World) (paths : List Path) : IO World := do
  let mut w := w
  for p in paths do
    for l in World.places .root p.segments do
      w ← probe w l
  return w

/-- The date of the day. -/
def today : IO String := do
  let now ← Std.Time.Timestamp.now
  return (Std.Time.PlainDate.ofEpochDay now.toDaysSinceUnixEpoch).toSQLDateString

/-- Adds lines to a log file, and makes it if it is missing. -/
def append (l : Location) (lines : List Logging.Line) : IO Unit := do
  match Text.ofUtf8? (Path.ofLocation l), Text.ofUtf8? (Path.ofLocation l.dropLast) with
  | some path, some parent =>
    IO.FS.createDirAll parent
    IO.FS.withFile path .append fun file =>
      lines.forM fun line => file.putStrLn line.written
  | _, _ => return

/-- What is said when the program stops before it begins. -/
def stopMessage : Command.Stop → Option String
  | .helpInstead text => some text
  | .refused _ => some ("error: the arguments cannot be used\n\n" ++
      Command.Topic.text (some Command.programName) .program)
  | _ => none

/-- Carries out what a run decided. -/
def carryOut (o : Program.Outcome) : IO UInt32 := do
  for line in o.journal.console do
    IO.println line.written
  IO.print o.output
  for (l, lines) in o.journal.files do
    append l lines
  if let some message := o.stop.bind stopMessage then
    IO.eprint message
  if let some problem := o.problem then
    IO.eprintln ("Error: " ++ problem.toError.shape.inline)
  return o.code.toUInt32

end StateHolders.Main

/-- Runs the program on its arguments. -/
def main (arguments : List String) : IO UInt32 := do
  let date ← StateHolders.Main.today
  let start : StateHolders.World :=
    ⟨[], ← StateHolders.Main.directory, ← StateHolders.Main.environment,
      ← StateHolders.Main.accountHome⟩
  let w ← StateHolders.Main.look start (StateHolders.Program.consultedForConfig start arguments)
  let w ← StateHolders.Main.look w (StateHolders.Program.consultedForLog w arguments date)
  StateHolders.Main.carryOut (StateHolders.Program.run w arguments date)
