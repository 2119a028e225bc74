import StateHolders.Text.Quoted

/-!
# Shapes of values

Diagnostics show a value as a shape: words, quoted texts, lists, and named records and tuples. A
shape is written on one line or spread over several, where every item of a group has its own
line, four blanks deeper, and ends in a comma.
-/

namespace StateHolders.Text

/-- What a diagnostic shows of a value. -/
inductive Shape where
  /-- A word, written as it is. -/
  | word (text : String)
  /-- Items in brackets. -/
  | list (items : List Shape)
  /-- Items in parentheses after a name. -/
  | tuple (name : String) (items : List Shape)
  /-- Labelled items in braces after a name; a record that is not complete says so. -/
  | record (name : String) (items : List Shape) (complete : Bool)
  /-- A labelled item of a record. -/
  | labelled (label : String) (value : Shape)

namespace Shape

/-- A text, in quotation marks. -/
def text (s : String) : Shape := .word (quoted s)

/-- An optional value. -/
def option : Option Shape → Shape
  | none => .word "None"
  | some s => .tuple "Some" [s]

/-- A truth value. -/
def truth (b : Bool) : Shape := .word (if b then "true" else "false")

mutual

/-- The shape on one line. -/
def inline : Shape → String
  | .word t => t
  | .list items => "[" ++ String.intercalate ", " (inlineAll items) ++ "]"
  | .tuple name items => name ++ "(" ++ String.intercalate ", " (inlineAll items) ++ ")"
  | .record name items complete =>
    let parts := inlineAll items ++ (if complete then [] else [".."])
    if parts.isEmpty then name
    else name ++ " \x7b " ++ String.intercalate ", " parts ++ " \x7d"
  | .labelled label value => label ++ ": " ++ inline value

/-- Each shape on one line. -/
def inlineAll : List Shape → List String
  | [] => []
  | s :: rest => inline s :: inlineAll rest

end

/-- Moves the lines four blanks deeper and ends the last of them in a comma. -/
def asItem : List String → List String
  | [] => []
  | [l] => ["    " ++ l ++ ","]
  | l :: rest => ("    " ++ l) :: asItem rest

/-- Puts a text before the first line. -/
def beforeFirst (t : String) : List String → List String
  | [] => [t]
  | l :: rest => (t ++ l) :: rest

mutual

/-- The lines of a shape that is spread over several. -/
def lines : Shape → List String
  | .word t => [t]
  | .list items =>
    if items.isEmpty then ["[]"] else ["["] ++ itemLines items ++ ["]"]
  | .tuple name items =>
    if items.isEmpty then [name ++ "()"] else [name ++ "("] ++ itemLines items ++ [")"]
  | .record name items complete =>
    match items.isEmpty, complete with
    | true, true => [name]
    | true, false => [name ++ " \x7b .. \x7d"]
    | false, true => [name ++ " \x7b"] ++ itemLines items ++ ["\x7d"]
    | false, false => [name ++ " \x7b"] ++ itemLines items ++ ["    .."] ++ ["\x7d"]
  | .labelled label value => beforeFirst (label ++ ": ") (lines value)

/-- The lines of all items of a group. -/
def itemLines : List Shape → List String
  | [] => []
  | s :: rest => asItem (lines s) ++ itemLines rest

end

/-- The shape on one line, or spread over several if `spread`. -/
def render (spread : Bool) (s : Shape) : String :=
  if spread then String.intercalate "\n" s.lines else s.inline

end Shape

end StateHolders.Text
