import StateHolders.Config
import StateHolders.Config.Value
import StateHolders.Error

/-!
# Reading a configuration from a layer

Each setting has a kind, and a value of another kind is a mismatch: nothing is converted. Tables
are read in the order of the bytes of their keys, sequences, which may stand for a table, in the
order in which the settings are declared. The first mismatch is reported; keys that are no
settings are ignored.
-/

namespace StateHolders.Config

/-- What was expected of a value. -/
inductive Expected where
  /-- A text. -/
  | text
  /-- A truth value. -/
  | truth
  /-- A sequence. -/
  | sequence
  /-- A path. -/
  | path
  /-- The logging part. -/
  | logging
  /-- The registry part. -/
  | registry
deriving DecidableEq, Repr

/-- What was expected, in words. -/
def Expected.words : Expected → String
  | .text => "a string"
  | .truth => "a boolean"
  | .sequence => "a sequence"
  | .path => "path string"
  | .logging => "struct LoggingConfig"
  | .registry => "struct RegistryConfig"

/-- The kind of a value, in words. -/
def Value.found : Value → String
  | .scalar _ (.text s) => "string " ++ Text.quoted s
  | .scalar _ (.truth b) => "bool " ++ (if b then "true" else "false")
  | .scalar _ (.signed n) => "signed int `" ++ toString n ++ "`"
  | .scalar _ (.unsigned n) => "unsigned int `" ++ toString n ++ "`"
  | .scalar _ (.float x) => "float `" ++ x.show ++ "`"
  | .list _ _ => "sequence"
  | .table _ _ => "map"

/-- A value of the wrong kind. -/
structure Mismatch where
  /-- The value. -/
  value : Value
  /-- What was expected in its place. -/
  expected : Expected
  /-- The keys that lead to the value; a place in a sequence counts as a key. -/
  keys : List String

/-- The key as its source names it. -/
def Origin.shownKey (o : Origin) (keys : List String) : String :=
  match o with
  | .environment _ => String.intercalate "." (keys.map String.toUpper)
  | _ => String.intercalate "." ("default" :: keys)

/-- The name of a source of values. -/
def Origin.name : Origin → String
  | .defaults => "defaults"
  | .file shown => shown ++ " TOML file"
  | .environment start => "`" ++ start.toUpper ++ "` environment variable(s)"

/-- What is said about a value of the wrong kind. -/
def Mismatch.message (m : Mismatch) : String :=
  "invalid type: found " ++ m.value.found ++ ", expected " ++ m.expected.words ++
    " for key \"" ++ m.value.origin.shownKey m.keys ++ "\" in " ++ m.value.origin.name

/-- Reads a value that keys lead to. -/
abbrev Reader (α : Type) := List String → Value → Except Mismatch α

/-- Reads a text. -/
def readText : Reader String
  | _, .scalar _ (.text s) => .ok s
  | keys, v => .error ⟨v, .text, keys⟩

/-- Reads a truth value. -/
def readTruth : Reader Bool
  | _, .scalar _ (.truth b) => .ok b
  | keys, v => .error ⟨v, .truth, keys⟩

/-- Reads a path. -/
def readPath : Reader (Option Path)
  | _, .scalar _ (.text s) => .ok (some (Path.ofText s))
  | keys, v => .error ⟨v, .path, keys⟩

/-- Reads the items of a sequence of texts from a position on. -/
def readItems (keys : List String) : Nat → List Value → Except Mismatch (List String)
  | _, [] => .ok []
  | position, v :: rest =>
    match readText (keys ++ [toString position]) v with
    | .error m => .error m
    | .ok s => (readItems keys (position + 1) rest).map (s :: ·)

/-- Reads a sequence of texts. -/
def readTexts : Reader (List String)
  | keys, .list _ items => readItems keys 0 items
  | keys, v => .error ⟨v, .sequence, keys⟩

/-- Reads a setting that may be missing. -/
def readOr {α : Type} (default : α) (read : Reader α) (keys : List String) :
    Option Value → Except Mismatch α
  | none => .ok default
  | some v => read keys v

/-- Reads a field of a table that keys lead to. -/
def readField {α : Type} (default : α) (read : Reader α) (keys : List String) (k : String)
    (fields : Fields) : Except Mismatch α :=
  readOr default read (keys ++ [k]) (Dictionary.get? k fields)

/-- Reads an item of a sequence that keys lead to. -/
def readAt {α : Type} (default : α) (read : Reader α) (keys : List String) (position : Nat)
    (items : List Value) : Except Mismatch α :=
  readOr default read (keys ++ [toString position]) items[position]?

/-- Reads the logging part. -/
def readLogging (keys : List String) (v : Value) : Except Mismatch LoggingConfig :=
  let default := LoggingConfig.default
  match v with
  | .table _ fields => do
    let fileOutput ← readField default.fileOutput readPath keys "file_output" fields
    let jsonFormat ← readField default.jsonFormat readTruth keys "json_format" fields
    let level ← readField default.level readText keys "level" fields
    return ⟨level, jsonFormat, fileOutput⟩
  | .list _ items => do
    let level ← readAt default.level readText keys 0 items
    let jsonFormat ← readAt default.jsonFormat readTruth keys 1 items
    let fileOutput ← readAt default.fileOutput readPath keys 2 items
    return ⟨level, jsonFormat, fileOutput⟩
  | v => .error ⟨v, .logging, keys⟩

/-- Reads the registry part. -/
def readRegistry (keys : List String) (v : Value) : Except Mismatch RegistryConfig :=
  let default := RegistryConfig.default
  match v with
  | .table _ fields => do
    let disabled ← readField default.disabled readTexts keys "disabled" fields
    let discover ← readField default.discover readTruth keys "discover" fields
    return ⟨discover, disabled⟩
  | .list _ items => do
    let discover ← readAt default.discover readTruth keys 0 items
    let disabled ← readAt default.disabled readTexts keys 1 items
    return ⟨discover, disabled⟩
  | v => .error ⟨v, .registry, keys⟩

/-- Reads a configuration from the fields of a layer. -/
def ofFields (fields : Fields) : Except Mismatch Config := do
  let logging ← readField .default readLogging [] "logging" fields
  let registry ← readField .default readRegistry [] "registry" fields
  return ⟨logging, registry⟩

/-- The layer of a configuration. -/
def toFields (o : Origin) (c : Config) : Fields :=
  let text (s : String) : Value := .scalar o (.text s)
  let truth (b : Bool) : Value := .scalar o (.truth b)
  let fileOutput := (c.logging.fileOutput.map Text.shownBytes).toList.map fun s =>
    ("file_output", text s)
  [("logging", .table o
      ([("level", text c.logging.level), ("json_format", truth c.logging.jsonFormat)] ++
        fileOutput)),
    ("registry", .table o
      [("discover", truth c.registry.discover),
        ("disabled", .list o (c.registry.disabled.map text))])]

end StateHolders.Config
