import StateHolders.Logging.Log

/-!
# Written lines of the log

A plain line begins with the level and the target. A record is written as a JSON object.
-/

namespace StateHolders.Logging

/-- One character in a JSON text. -/
def jsonChar (c : Char) : List Char :=
  match c with
  | '"' => ['\\', '"']
  | '\\' => ['\\', '\\']
  | '\n' => ['\\', 'n']
  | '\r' => ['\\', 'r']
  | '\t' => ['\\', 't']
  | c =>
    if c.toNat < 0x20 then
      ['\\', 'u', '0', '0', Nat.digitChar (c.toNat / 16), Nat.digitChar (c.toNat % 16)]
    else [c]

/-- A JSON text. -/
def jsonText (s : String) : String := String.ofList ('"' :: s.toList.flatMap jsonChar ++ ['"'])

/-- A value as JSON. -/
def jsonValue : FieldValue → String
  | .shown text => jsonText text
  | .quoted text => jsonText text
  | .count n => toString n

/-- A JSON object of members that are written already. -/
def jsonObject (members : List (String × String)) : String :=
  "\x7b" ++ String.intercalate "," (members.map fun (k, v) => jsonText k ++ ":" ++ v) ++ "\x7d"

/-- A line as the log shows it. -/
def Line.written (l : Line) : String :=
  match l.body with
  | .plain text =>
    String.ofList (List.replicate (5 - l.level.word.length) ' ') ++ l.level.word ++ " " ++
      l.target.path ++ ": " ++ text
  | .record fields =>
    jsonObject [("level", jsonText l.level.word),
      ("fields", jsonObject (fields.map fun (k, v) => (k, jsonValue v))),
      ("target", jsonText l.target.path)]

end StateHolders.Logging
