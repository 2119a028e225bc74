import StateHolders.Toml.Scalar
import StateHolders.Toml.Table
import StateHolders.Toml.Text

/-!
# TOML documents

A document is a sequence of lines: headers and keys with their values. `parse?` scans the lines
and builds the table that they describe; it is total and refuses every text that is no document.
-/

namespace StateHolders.Toml

/-- Scans items with commas between them up to a closing bracket; a comma may follow the last item.
The first argument bounds the number of items. -/
def scanItems {α : Type} (scanItem : Scan α) : Nat → Scan (List α)
  | 0, _ => none
  | fuel + 1, cs =>
    (skipTrivia false cs).bind fun cs =>
      match cs with
      | ']' :: rest => some ([], rest)
      | cs =>
        (scanItem cs).bind fun (item, rest) => (skipTrivia false rest).bind fun rest =>
          match rest with
          | ',' :: more => (scanItems scanItem fuel more).map fun (items, r) => (item :: items, r)
          | ']' :: more => some ([item], more)
          | _ => none

/-- Scans a key, the sign of equality, and a value. -/
def scanAssignment (scanValue : Scan Value) : Scan (List String × Value) := fun cs =>
  (scanKey maxKeyParts cs).bind fun (key, rest) =>
    match rest with
    | '=' :: more => (scanValue (skipSpaces more)).map fun (v, r) => ((key, v), r)
    | _ => none

/-- Scans the assignments of an inline table up to its closing brace. The first argument bounds
their number. -/
def scanFields (scanValue : Scan Value) : Nat → Scan (List (List String × Value))
  | 0, _ => none
  | fuel + 1, cs =>
    (scanAssignment scanValue (skipSpaces cs)).bind fun (field, rest) =>
      match skipSpaces rest with
      | ',' :: more => (scanFields scanValue fuel more).map fun (fields, r) => (field :: fields, r)
      | '\x7d' :: more => some ([field], more)
      | _ => none

/-- Scans a value in which arrays and inline tables are nested at most `depth` deep. -/
def scanValue : Nat → Scan Value
  | depth, cs =>
    match cs with
    | '"' :: _ => (scanText cs).map fun (t, r) => (.text t, r)
    | '\'' :: _ => (scanText cs).map fun (t, r) => (.text t, r)
    | '[' :: rest =>
      match depth with
      | 0 => none
      | depth + 1 =>
        (scanItems (scanValue depth) (rest.length + 1) rest).map fun (items, r) => (.list items, r)
    | '\x7b' :: rest =>
      match depth with
      | 0 => none
      | depth + 1 =>
        match skipSpaces rest with
        | '\x7d' :: r => some (.table [], r)
        | _ =>
          (scanFields (scanValue depth) (rest.length + 1) rest).bind fun (fields, r) =>
            (Entries.assignAll fields []).map fun entries => (.table (finishEntries entries), r)
    | _ => scanWord cs

/-- The depth to which arrays and inline tables can be nested. -/
def maxDepth : Nat := 79

/-- Scans one statement. -/
def scanStatement : Scan Statement
  | '[' :: '[' :: rest =>
    (scanKey maxKeyParts (skipSpaces rest)).bind fun (path, rest) =>
      match rest with
      | ']' :: ']' :: more => some (.row path, more)
      | _ => none
  | '[' :: rest =>
    (scanKey maxKeyParts (skipSpaces rest)).bind fun (path, rest) =>
      match rest with
      | ']' :: more => some (.header path, more)
      | _ => none
  | cs => (scanAssignment (scanValue maxDepth) cs).map fun ((key, v), r) => (.assign key v, r)

/-- The statements of a text. The first argument bounds their number. -/
def scanStatements : Nat → List Char → Option (List Statement)
  | 0, _ => none
  | fuel + 1, cs =>
    (skipTrivia false cs).bind fun cs =>
      if cs.isEmpty then some []
      else
        (scanStatement cs).bind fun (s, rest) => (skipLineEnd rest).bind fun rest =>
          (scanStatements fuel rest).map (s :: ·)

/-- Drops the mark of the byte order at the beginning of a text. -/
def dropByteOrderMark : List Char → List Char
  | c :: rest => if c = '\uFEFF' then rest else c :: rest
  | [] => []

/-- The fields of the table that a document describes. -/
def parse? (text : String) : Option (List (String × Value)) :=
  let cs := dropByteOrderMark text.toList
  (scanStatements (cs.length + 1) cs).bind fun statements =>
    (applyAll [] [] statements).map finishEntries

end StateHolders.Toml
