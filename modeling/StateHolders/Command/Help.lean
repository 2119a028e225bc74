import StateHolders.Text.Terminal

/-!
# Help texts

What the command line says about itself. The name under which the program was started stands in the
line that shows its use; without such a name that line names the program, or only its command.
-/

namespace StateHolders.Command

/-- The name of the program. -/
def programName : String := "vmf"

/-- The version of the program. -/
def versionText : String := programName ++ " 0.1.0\n"

/-- What help can be asked about. -/
inductive Topic where
  /-- The program. -/
  | program
  /-- Listing the holders on offer. -/
  | list
  /-- Creating a holder. -/
  | resolve
  /-- Help itself. -/
  | help
deriving DecidableEq, Repr

/-- The topic that a word names. -/
def Topic.ofWord? : String → Option Topic
  | "list" => some .list
  | "resolve" => some .resolve
  | "help" => some .help
  | _ => none

/-- The lines about the options that every command has. -/
def optionLines : List String :=
  ["  -c, --config <CONFIG>  Path to configuration file", "  -h, --help             Print help"]

/-- A command as a line shows it, for a program that was started under a name. -/
def shownCommand (started : Option String) (command : String) : String :=
  match started with
  | some name => name ++ " " ++ command
  | none => command

/-- The lines of help on a topic, for a program that was started under a name. -/
def Topic.lines (started : Option String) : Topic → List String
  | .program =>
    ["Inspect and exercise the state holder registry", "",
      "Usage: " ++ started.getD programName ++ " [OPTIONS] <COMMAND>", "",
      "Commands:",
      "  list     List state holders registered at compile time",
      "  resolve  Create one instance of the named state holder",
      "  help     Print this message or the help of the given subcommand(s)", "",
      "Options:"] ++ optionLines ++ ["  -V, --version          Print version"]
  | .list =>
    ["List state holders registered at compile time", "",
      "Usage: " ++ shownCommand started "list" ++ " [OPTIONS]", "",
      "Options:"] ++ optionLines
  | .resolve =>
    ["Create one instance of the named state holder", "",
      "Usage: " ++ shownCommand started "resolve" ++ " [OPTIONS] <NAME>", "",
      "Arguments:",
      "  <NAME>  Registry name of the holder", "",
      "Options:"] ++ optionLines
  | .help =>
    ["Print this message or the help of the given subcommand(s)", "",
      "Usage: " ++ shownCommand started "help" ++ " [COMMAND]...", "",
      "Arguments:",
      "  [COMMAND]...  Print help for the subcommand(s)"]

/-- The text of help on a topic, without what the name would do to a terminal. -/
def Topic.text (started : Option String) (t : Topic) : String :=
  Text.withoutSequences (String.join ((t.lines started).map (· ++ "\n")))

end StateHolders.Command
