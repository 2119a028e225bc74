import StateHolders.Dictionary
import StateHolders.Toml.Value

/-!
# Layers of settings

Settings come in layers: the defaults, a file, and the environment. A layer is a table of values,
and every value remembers where it came from, so that a value of the wrong kind can be pointed
at. `onto` lays one value over another: tables are merged key by key, and everything else
replaces what was there.
-/

namespace StateHolders.Config

/-- Where a value came from. -/
inductive Origin where
  /-- It is a default. -/
  | defaults
  /-- It stands in a file, which diagnostics show so. -/
  | file (shown : String)
  /-- It was given by environment variables whose names begin so. -/
  | environment (start : String)
deriving DecidableEq, Repr

/-- A single setting. -/
inductive Scalar where
  /-- A text. -/
  | text (s : String)
  /-- A truth value. -/
  | truth (b : Bool)
  /-- A whole number with a sign. -/
  | signed (n : Int)
  /-- A whole number without a sign. -/
  | unsigned (n : Nat)
  /-- A number with a point. -/
  | float (x : Decimal.Binary64)
deriving DecidableEq, Repr

/-- A value of a layer. -/
inductive Value where
  /-- A single setting. -/
  | scalar (origin : Origin) (s : Scalar)
  /-- A sequence. -/
  | list (origin : Origin) (items : List Value)
  /-- A table. -/
  | table (origin : Origin) (fields : List (String × Value))

/-- The fields of a table. -/
abbrev Fields := List (String × Value)

namespace Value

/-- Where the value came from. -/
def origin : Value → Origin
  | .scalar o _ => o
  | .list o _ => o
  | .table o _ => o

/-- The value of a field, if the value is a table that has it. -/
def field? (k : String) : Value → Option Value
  | .table _ fields => Dictionary.get? k fields
  | _ => none

mutual

/-- The value laid over `base`. -/
def onto (base : Value) : Value → Value
  | .table o fields =>
    match base with
    | .table _ old => .table o (fieldsOnto old fields)
    | _ => .table o fields
  | v => v

/-- The fields laid over those of `base`. -/
def fieldsOnto (base : Fields) : Fields → Fields
  | [] => base
  | (k, v) :: rest => Dictionary.set k (ontoField (Dictionary.get? k base) v) (fieldsOnto base rest)

/-- The value laid over that of a field, if there is one. -/
def ontoField (base : Option Value) (v : Value) : Value :=
  match base with
  | some old => onto old v
  | none => v

end

/-- A field of a merge: what was laid over comes last, and what it does not name stays. -/
theorem get?_fieldsOnto (k : String) (base later : Fields) :
    Dictionary.get? k (fieldsOnto base later) =
      match Dictionary.get? k later with
      | some v => some (ontoField (Dictionary.get? k base) v)
      | none => Dictionary.get? k base := by
  induction later with
  | nil => simp [fieldsOnto]
  | cons field rest ih =>
    obtain ⟨k', v⟩ := field
    by_cases h : k' = k
    · subst h
      simp [fieldsOnto, Dictionary.get?_cons]
    · simp [fieldsOnto, Dictionary.get?_cons, Dictionary.get?_set_of_ne h, h, ih]

/-- The value under a path of keys, as a table that holds nothing else. -/
def nested (o : Origin) (v : Value) : List String → Value
  | [] => v
  | k :: rest => .table o [(k, nested o v rest)]

/-- The key that no table of a document below the topmost can have. -/
def reservedKey : String := "___figment_value_id"

/-- The key whose value takes the place of the table that has it. -/
def contentKey : String := "___figment_value_value"

/-- The value of a table of a document with some fields. -/
def ofFields? (o : Origin) (fields : Fields) : Option Value :=
  if (Dictionary.get? reservedKey fields).isSome then none
  else some ((Dictionary.get? contentKey fields).getD (.table o fields))

mutual

/-- The value of a document as a value of a layer; there is none if a table has the reserved key. A
point in time counts as a table. -/
def ofToml? (o : Origin) : Toml.Value → Option Value
  | .text s => some (.scalar o (.text s))
  | .integer n => some (.scalar o (.signed n))
  | .float x => some (.scalar o (.float x))
  | .truth b => some (.scalar o (.truth b))
  | .moment => some (.table o [])
  | .list items => (itemsOfToml? o items).map (.list o)
  | .table fields => (fieldsOfToml? o fields).bind (ofFields? o)

/-- The items of an array as values of a layer. -/
def itemsOfToml? (o : Origin) : List Toml.Value → Option (List Value)
  | [] => some []
  | v :: rest => (ofToml? o v).bind fun v => (itemsOfToml? o rest).map (v :: ·)

/-- The fields of a table as fields of a layer. -/
def fieldsOfToml? (o : Origin) : List (String × Toml.Value) → Option Fields
  | [] => some []
  | (k, v) :: rest => (ofToml? o v).bind fun v => (fieldsOfToml? o rest).map ((k, v) :: ·)

end

end Value

end StateHolders.Config
