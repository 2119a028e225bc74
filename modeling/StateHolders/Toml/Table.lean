import StateHolders.Dictionary
import StateHolders.Toml.Value

/-!
# Tables of a TOML document

A document builds its tables piece by piece: headers open tables, dotted keys reach into them,
and double brackets add a row to an array of tables. No key may be given twice, and how a table
came about decides who may still add to it.
-/

namespace StateHolders.Toml

/-- How a table came about. -/
inductive Origin where
  /-- By a header of its own. -/
  | explicit
  /-- By the header of a table inside it. -/
  | implied
  /-- By a dotted key. -/
  | dotted
deriving DecidableEq, Repr

/-- A table under construction, or a value. -/
inductive Node where
  /-- A value, to which nothing can be added. -/
  | value (v : Value)
  /-- A table. -/
  | table (origin : Origin) (entries : List (String × Node))
  /-- An array of tables. -/
  | rows (tables : List (List (String × Node)))

/-- The entries of a table under construction. -/
abbrev Entries := List (String × Node)

/-- Changes the last element of a list, if there is one. -/
def changeLast {α : Type} (f : α → Option α) : List α → Option (List α)
  | [] => none
  | [a] => (f a).map fun b => [b]
  | a :: rest => (changeLast f rest).map (a :: ·)

namespace Entries

/-- Adds a value under a key. Every part of the key but the last is a table that no header has
opened, and the table that receives the value was made by a dotted key. -/
def assign (v : Value) : List String → Entries → Option Entries
  | [], _ => none
  | [k], entries =>
    if (Dictionary.get? k entries).isSome then none else some (Dictionary.set k (.value v) entries)
  | k :: rest, entries =>
    let isFinal := rest.length = 1
    match Dictionary.get? k entries with
    | none => (assign v rest []).map fun inner => Dictionary.set k (.table .dotted inner) entries
    | some (.value _) => none
    | some (.table .explicit _) => none
    | some (.table .implied inner) =>
      if isFinal then none
      else (assign v rest inner).map fun inner =>
        Dictionary.set k (.table .implied inner) entries
    | some (.table .dotted inner) =>
      (assign v rest inner).map fun inner => Dictionary.set k (.table .dotted inner) entries
    | some (.rows tables) =>
      if isFinal then none
      else (changeLast (assign v rest) tables).map fun tables =>
        Dictionary.set k (.rows tables) entries

/-- Changes the entries of the table that a path of header names leads to, in an array of tables
those of its last row; missing tables are implied. -/
def changeAt (f : Entries → Option Entries) : List String → Entries → Option Entries
  | [], entries => f entries
  | k :: rest, entries =>
    match Dictionary.get? k entries with
    | none =>
      (changeAt f rest []).map fun inner => Dictionary.set k (.table .implied inner) entries
    | some (.value _) => none
    | some (.table origin inner) =>
      (changeAt f rest inner).map fun inner => Dictionary.set k (.table origin inner) entries
    | some (.rows tables) =>
      (changeLast (changeAt f rest) tables).map fun tables =>
        Dictionary.set k (.rows tables) entries

/-- Opens the table of a header. It must be new, or implied by an earlier header. -/
def openTable (k : String) (entries : Entries) : Option Entries :=
  match Dictionary.get? k entries with
  | none => some (Dictionary.set k (.table .explicit []) entries)
  | some (.table .implied inner) => some (Dictionary.set k (.table .explicit inner) entries)
  | _ => none

/-- Opens a new row of an array of tables. -/
def openRow (k : String) (entries : Entries) : Option Entries :=
  match Dictionary.get? k entries with
  | none => some (Dictionary.set k (.rows [[]]) entries)
  | some (.rows tables) => some (Dictionary.set k (.rows (tables ++ [[]])) entries)
  | _ => none

/-- Adds values under their keys, in order. -/
def assignAll : List (List String × Value) → Entries → Option Entries
  | [], entries => some entries
  | (key, v) :: rest, entries => (assign v key entries).bind (assignAll rest)

end Entries

mutual

/-- The value that a finished node stands for. -/
def Node.finish : Node → Value
  | .value v => v
  | .table _ entries => .table (finishEntries entries)
  | .rows tables => .list (finishRows tables)

/-- The fields of a finished table. -/
def finishEntries : List (String × Node) → List (String × Value)
  | [] => []
  | (k, node) :: rest => (k, node.finish) :: finishEntries rest

/-- The rows of a finished array of tables. -/
def finishRows : List (List (String × Node)) → List Value
  | [] => []
  | entries :: rest => .table (finishEntries entries) :: finishRows rest

end

/-! ## Documents -/

/-- A statement of a document. -/
inductive Statement where
  /-- A header: the values that follow belong to this table. -/
  | header (path : List String)
  /-- A header in double brackets: the values that follow belong to a new row. -/
  | row (path : List String)
  /-- A key and its value. -/
  | assign (key : List String) (v : Value)

/-- The header path and the entries after a statement. -/
def Statement.apply (current : List String) (entries : Entries) :
    Statement → Option (List String × Entries)
  | .header path => do
    let last ← path.getLast?
    let entries ← entries.changeAt (Entries.openTable last) path.dropLast
    some (path, entries)
  | .row path => do
    let last ← path.getLast?
    let entries ← entries.changeAt (Entries.openRow last) path.dropLast
    some (path, entries)
  | .assign key v => do
    let entries ← entries.changeAt (Entries.assign v key) current
    some (current, entries)

/-- The entries after several statements. -/
def applyAll : List String → Entries → List Statement → Option Entries
  | _, entries, [] => some entries
  | current, entries, s :: rest =>
    (s.apply current entries).bind fun (current, entries) => applyAll current entries rest

end StateHolders.Toml
