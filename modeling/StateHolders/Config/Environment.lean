import StateHolders.Config.Literal

/-!
# Settings from environment variables

A variable sets something if its name begins with the prefix and two underscores, in any ASCII
case. The rest of the name is a path of keys in lower case, divided by two underscores or a point;
its text is a literal. Blanks around the name and around that rest do not count. Of all such
variables one layer is made, in their order.
-/

namespace StateHolders.Config

/-- The marks that divide keys in the name of a variable. -/
def keySeparator : String := "__"

/-- What follows `start` in a text that begins with it in any ASCII case. -/
def dropStart? : (start : List Char) → List Char → Option (List Char)
  | [], cs => some cs
  | _ :: _, [] => none
  | a :: start, c :: cs => if a.toLower = c.toLower then dropStart? start cs else none

/-- The keys in the rest of a name. `key` holds the characters of the current key, last first. -/
def splitKeys (key : List Char) : List Char → List (List Char)
  | [] => [key.reverse]
  | '.' :: rest => key.reverse :: splitKeys [] rest
  | '_' :: '_' :: rest => key.reverse :: splitKeys [] rest
  | c :: rest => splitKeys (c :: key) rest

/-- The keys that a variable sets, if it sets any. No key is empty. -/
def keysOf? (start : String) (name : String) : Option (List String) :=
  (dropStart? start.toList (Text.trim name.toList)).bind fun rest =>
    let keys := splitKeys [] (Text.trim rest)
    if keys.any List.isEmpty then none
    else some (keys.map fun k => String.ofList (k.map Char.toLower))

/-- The beginning of the names of variables that set something. -/
def variableStart (prefixName : String) : String := prefixName ++ keySeparator

/-- The variables that set something, with their keys, in order. -/
def matching (prefixName : String) (environment : List (String × String)) :
    List (List String × String) :=
  environment.filterMap fun (name, text) =>
    (keysOf? (variableStart prefixName) name).map fun keys => (keys, text)

/-- The fields that one variable sets; there are none if its text cannot be read. -/
def variableFields? (o : Origin) (keys : List String) (text : String) : Option Fields :=
  (Literal.read? o text).map fun v =>
    match keys with
    | [] => []
    | k :: rest => [(k, Value.nested o v rest)]

/-- The layer of the variables that set something; there is none if the text of one of them cannot
be read. -/
def environmentFields? (prefixName : String) (environment : List (String × String)) :
    Option Fields :=
  let o := Origin.environment (variableStart prefixName)
  (matching prefixName environment).foldlM
    (fun fields (keys, text) => (variableFields? o keys text).map (Value.fieldsOnto fields)) []

end StateHolders.Config
