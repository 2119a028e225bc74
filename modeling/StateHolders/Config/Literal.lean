import StateHolders.Config.Value
import StateHolders.Text.Blank
import StateHolders.Text.Cut
import StateHolders.Toml.Text

/-!
# Values of environment variables

The text of a variable is read as a literal: a truth value, a number, a text in quotation marks, a
character between apostrophes, a sequence in brackets, or a table in braces. A text that is none of
these as a whole stands for itself. What is not marked in any way ends at the next comma or
bracket.

Of what stands before the first escape of a quoted text only so many bytes count as there are
characters. If that cuts a character apart, nothing is read at all.
-/

namespace StateHolders.Config.Literal

/-- Reads a part at the front of a text and gives what follows it. -/
abbrev Scan (α : Type) := List Char → Except Text.Fault (α × List Char)

/-- A part that is there, or the fault that it is not. -/
def orMalformed {α : Type} : Option α → Except Text.Fault α
  | some a => .ok a
  | none => .error .malformed

/-- The ASCII blanks. -/
def isSpace (c : Char) : Bool := " \t\n\x0c\r".toList.contains c

/-- Drops ASCII blanks at the front. -/
def skipSpaces (cs : List Char) : List Char := cs.dropWhile isSpace

/-- A character that ends an unmarked literal. -/
def isDelimiter (c : Char) : Bool := ",\x7b\x7d[]".toList.contains c

/-- The value of decimal digits, at least one. -/
def digits? (cs : List Char) : Option Nat :=
  if cs.isEmpty || !cs.all Char.isDigit then none
  else some (cs.foldl (fun n c => n * 10 + (c.toNat - '0'.toNat)) 0)

/-- A whole number of 64 bits without a sign; a plus may stand before it. -/
def unsigned? (cs : List Char) : Option Nat :=
  let rest := match cs with
    | '+' :: rest => rest
    | rest => rest
  (digits? rest).bind fun n => if n < 0x10000000000000000 then some n else none

/-- A whole number of 64 bits with a sign. -/
def signed? (cs : List Char) : Option Int :=
  match cs with
  | '-' :: rest =>
    (digits? rest).bind fun n => if n ≤ 0x8000000000000000 then some (-(n : Int)) else none
  | '+' :: rest =>
    (digits? rest).bind fun n => if n < 0x8000000000000000 then some (n : Int) else none
  | rest => (digits? rest).bind fun n => if n < 0x8000000000000000 then some (n : Int) else none

/-- A number with a point. Digits may be missing on one side of the point, and an exponent may
follow. -/
def float? (cs : List Char) : Option Decimal.Binary64 :=
  let (negative, rest) := match cs with
    | '-' :: rest => (true, rest)
    | '+' :: rest => (false, rest)
    | rest => (false, rest)
  let whole := rest.takeWhile Char.isDigit
  match rest.dropWhile Char.isDigit with
  | '.' :: afterPoint =>
    let places := afterPoint.takeWhile Char.isDigit
    let exponent? : Option Int :=
      match afterPoint.dropWhile Char.isDigit with
      | [] => some 0
      | e :: power =>
        if e == 'e' || e == 'E' then
          match power with
          | '-' :: ds => (digits? ds).map fun n => -(n : Int)
          | '+' :: ds => (digits? ds).map fun n => (n : Int)
          | ds => (digits? ds).map fun n => (n : Int)
        else none
    exponent?.bind fun e =>
      (digits? (whole ++ places)).map fun n =>
        Decimal.Binary64.ofDecimal negative n (e - places.length)
  | _ => none

/-- What an unmarked literal stands for. -/
def bare (cs : List Char) : Scalar :=
  let asText := Scalar.text (String.ofList cs)
  let whole :=
    match unsigned? cs with
    | some n => .unsigned n
    | none =>
      match signed? cs with
      | some n => .signed n
      | none => asText
  if cs.contains '.' then
    match float? cs with
    | some x => .float x
    | none => whole
  else whole

/-- Whether a quotation mark closes the text. A character after a backslash closes nothing. -/
def closes : List Char → Bool
  | [] => false
  | '\\' :: _ :: rest => closes rest
  | c :: rest => c == '"' || closes rest

/-- Scans a text after its opening quotation mark. Of the characters before the first escape only
the first bytes count, as many as there are characters. -/
def quotedText : Scan String := fun cs =>
  let isPlain (c : Char) : Bool := c != '"' && c != '\\'
  let plain := cs.takeWhile isPlain
  if !closes cs || !plain.all Toml.isPrintable then .error .malformed
  else
    match cs.dropWhile isPlain with
    | '\\' :: rest => do
      let kept ← Text.slice 0 plain.length plain
      let (escaped, r) ← orMalformed (Toml.basicText .escaped rest)
      return (String.ofList (kept ++ escaped), r)
    | rest => .ok (String.ofList plain, rest.drop 1)

/-- A key of a table in braces: between quotation marks, or of letters, digits, underscores and
hyphens. -/
def scanKey : Scan String
  | '"' :: rest => quotedText rest
  | cs =>
    let key := cs.takeWhile Toml.isBareKeyChar
    if key.isEmpty then .error .malformed
    else .ok (String.ofList key, cs.dropWhile Toml.isBareKeyChar)

/-- Scans items with commas between them up to `close`. A comma may stand directly before it. The
first argument bounds the number of items. -/
def scanItems {α : Type} (close : Char) (scanItem : Scan α) : Nat → Scan (List α)
  | 0, _ => .error .malformed
  | fuel + 1, cs =>
    if cs.head? = some close then .ok ([], cs.drop 1)
    else do
      let (item, rest) ← scanItem cs
      match rest with
      | c :: more =>
        if c = close then return ([item], more)
        else if c = ',' then
          let (items, r) ← scanItems close scanItem fuel more
          return (item :: items, r)
        else throw .malformed
      | [] => throw .malformed

/-- Scans a key, the sign of equality and a value. -/
def scanField (scanValue : Scan Value) : Scan (String × Value) := fun cs => do
  let (k, rest) ← scanKey (skipSpaces cs)
  match skipSpaces rest with
  | '=' :: more =>
    let (v, r) ← scanValue more
    return ((k, v), r)
  | _ => throw .malformed

/-- Fields in order; of two with one key the later one counts. -/
def collect (fields : Fields) : Fields :=
  fields.foldl (fun acc (k, v) => Dictionary.set k v acc) []

/-- A single setting, in front of some text. -/
def scalar (o : Origin) (s : Scalar) (rest : List Char) : Except Text.Fault (Value × List Char) :=
  .ok (.scalar o s, rest)

/-- Scans a literal with the blanks around it. The first argument bounds the depth to which
brackets are nested. -/
def scanValue (o : Origin) (depth : Nat) : Scan Value := fun cs =>
  let scanned :=
    match skipSpaces cs with
    | '"' :: rest => (quotedText rest).bind fun (t, r) => scalar o (.text t) r
    | '\'' :: c :: '\'' :: r => scalar o (.text (String.ofList [c])) r
    | '\'' :: _ => .error .malformed
    | '[' :: rest =>
      match depth with
      | 0 => .error .malformed
      | depth + 1 =>
        (scanItems ']' (scanValue o depth) (rest.length + 1) rest).map fun (items, r) =>
          (.list o items, r)
    | '\x7b' :: rest =>
      match depth with
      | 0 => .error .malformed
      | depth + 1 =>
        (scanItems '\x7d' (scanField (scanValue o depth)) (rest.length + 1) rest).map
          fun (fields, r) => (.table o (collect fields), r)
    | 't' :: 'r' :: 'u' :: 'e' :: r => scalar o (.truth true) r
    | 'f' :: 'a' :: 'l' :: 's' :: 'e' :: r => scalar o (.truth false) r
    | rest =>
      let word := rest.takeWhile (!isDelimiter ·)
      scalar o (bare (Text.trim word)) (rest.dropWhile (!isDelimiter ·))
  scanned.map fun (v, r) => (v, skipSpaces r)

/-- The value that the text of a variable stands for; there is none if a text in it is torn. -/
def read? (o : Origin) (text : String) : Option Value :=
  match scanValue o (text.length + 1) text.toList with
  | .ok (v, []) => some v
  | .error .torn => none
  | _ => some (.scalar o (.text text))

end StateHolders.Config.Literal
