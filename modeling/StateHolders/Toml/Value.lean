import StateHolders.Decimal.Binary64

/-!
# Values of a TOML document

The values that a document can give to a key. A point in time is kept without its parts, because
nothing in this library asks for them.
-/

namespace StateHolders.Toml

/-- A value of a document. -/
inductive Value where
  /-- A text. -/
  | text (s : String)
  /-- A whole number. -/
  | integer (n : Int)
  /-- A number with a fraction or an exponent, an infinity, or no number. -/
  | float (x : Decimal.Binary64)
  /-- A truth value. -/
  | truth (b : Bool)
  /-- A date, a time, or both. -/
  | moment
  /-- An array. -/
  | list (items : List Value)
  /-- A table. -/
  | table (fields : List (String × Value))

end StateHolders.Toml
