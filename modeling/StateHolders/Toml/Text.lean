import StateHolders.Text.CodePoint
import StateHolders.Toml.Character

/-!
# Texts in a TOML document

A text stands in one of four forms: between quotation marks, where a backslash begins an escape;
between apostrophes, where every character stands for itself; and either of these with the mark
three times, where the text may have several lines. Each scanner begins after the opening marks.
-/

namespace StateHolders.Toml

/-- Puts a character before a scanned text. -/
def consChar (c : Char) (scanned : Option (List Char × List Char)) :
    Option (List Char × List Char) :=
  scanned.map fun (text, rest) => (c :: text, rest)

/-- What one letter after a backslash stands for. -/
def letterEscape? (c : Char) : Option Char :=
  match c with
  | 'b' => some '\x08'
  | 't' => some '\t'
  | 'n' => some '\n'
  | 'f' => some '\x0c'
  | 'r' => some '\r'
  | '"' => some '"'
  | '\\' => some '\\'
  | _ => none

/-- Where the scanner of a text with escapes stands. -/
inductive EscapeState where
  /-- Outside an escape. -/
  | plain
  /-- After a backslash. -/
  | escaped
  /-- Within a code point, of which `left + 1` digits are to come. -/
  | code (left : Nat) (value : Nat)
  /-- In the blank that an escaped line end skips; `ended` says that the line end was seen. -/
  | skipping (ended : Bool)
deriving DecidableEq, Repr

/-- The scanner's state after a backslash and a letter that is no escape by itself. -/
def codeEscape? (c : Char) : Option EscapeState :=
  if c == 'u' then some (.code 3 0) else if c == 'U' then some (.code 7 0) else none

/-- A text on one line, up to its closing quotation mark. -/
def basicText : EscapeState → Scan (List Char)
  | _, [] => none
  | .plain, c :: rest =>
    if c == '"' then some ([], rest)
    else if c == '\\' then basicText .escaped rest
    else if isPrintable c then consChar c (basicText .plain rest)
    else none
  | .escaped, c :: rest =>
    match letterEscape? c with
    | some d => consChar d (basicText .plain rest)
    | none => (codeEscape? c).bind fun state => basicText state rest
  | .code left value, c :: rest =>
    (Text.hexValue? c).bind fun digit =>
      match left with
      | 0 =>
        (Text.charOfCode? (value * 16 + digit)).bind fun d => consChar d (basicText .plain rest)
      | left + 1 => basicText (.code left (value * 16 + digit)) rest
  | .skipping _, _ :: _ => none

/-- A text on one line, up to its closing apostrophe. -/
def literalText : Scan (List Char)
  | [] => none
  | c :: rest =>
    if c == '\'' then some ([], rest)
    else if isPrintable c then consChar c (literalText rest)
    else none

/-- The end of a text of several lines: three marks, before which one or two more belong to the
text. -/
def closing? (mark : Char) : Scan (List Char)
  | a :: b :: c :: rest =>
    if a == mark && b == mark && c == mark then
      match rest with
      | d :: e :: rest' =>
        if d == mark && e == mark then some ([mark, mark], rest')
        else if d == mark then some ([mark], e :: rest')
        else some ([], rest)
      | [d] => if d == mark then some ([mark], []) else some ([], [d])
      | [] => some ([], [])
    else none
  | _ => none

/-- Whether an escaped line end skips the character. -/
def isSkipped (c : Char) : Bool := isSpace c || c == '\n' || c == '\r'

/-- Whether the text begins with a character that an escaped line end skips. -/
def startsSkipped : List Char → Bool
  | [] => false
  | c :: _ => isSkipped c

/-- A text of several lines with escapes, up to its closing quotation marks. -/
def multilineBasicText : EscapeState → Scan (List Char)
  | _, [] => none
  | .plain, c :: rest =>
    if c == '"' then
      match closing? '"' (c :: rest) with
      | some closed => some closed
      | none => consChar c (multilineBasicText .plain rest)
    else if c == '\\' then
      multilineBasicText (if startsSkipped rest then .skipping false else .escaped) rest
    else if c == '\r' then
      if rest.head? == some '\n' then multilineBasicText .plain rest else none
    else if c == '\n' || isPrintable c then consChar c (multilineBasicText .plain rest)
    else none
  | .escaped, c :: rest =>
    match letterEscape? c with
    | some d => consChar d (multilineBasicText .plain rest)
    | none => (codeEscape? c).bind fun state => multilineBasicText state rest
  | .code left value, c :: rest =>
    (Text.hexValue? c).bind fun digit =>
      match left with
      | 0 =>
        (Text.charOfCode? (value * 16 + digit)).bind fun d =>
          consChar d (multilineBasicText .plain rest)
      | left + 1 => multilineBasicText (.code left (value * 16 + digit)) rest
  | .skipping ended, c :: rest =>
    if c == '\r' && rest.head? != some '\n' then none
    else
      let ended := ended || c == '\n'
      if startsSkipped rest then multilineBasicText (.skipping ended) rest
      else if ended then multilineBasicText .plain rest
      else none

/-- A text of several lines, up to its closing apostrophes. -/
def multilineLiteralText : Scan (List Char)
  | [] => none
  | c :: rest =>
    if c == '\'' then
      match closing? '\'' (c :: rest) with
      | some closed => some closed
      | none => consChar c (multilineLiteralText rest)
    else if c == '\r' then
      if rest.head? == some '\n' then multilineLiteralText rest else none
    else if c == '\n' || isPrintable c then consChar c (multilineLiteralText rest)
    else none

/-- Drops the line end that may follow the opening marks of a text of several lines. -/
def dropFirstLineEnd : List Char → List Char
  | '\n' :: rest => rest
  | '\r' :: '\n' :: rest => rest
  | rest => rest

/-- A text in any of the four forms, from its opening marks on. -/
def scanText : Scan String
  | '"' :: '"' :: '"' :: rest =>
    (multilineBasicText .plain (dropFirstLineEnd rest)).map fun (t, r) => (String.ofList t, r)
  | '"' :: rest => (basicText .plain rest).map fun (t, r) => (String.ofList t, r)
  | '\'' :: '\'' :: '\'' :: rest =>
    (multilineLiteralText (dropFirstLineEnd rest)).map fun (t, r) => (String.ofList t, r)
  | '\'' :: rest => (literalText rest).map fun (t, r) => (String.ofList t, r)
  | _ => none

/-! ## Keys -/

/-- A character of a key without marks. -/
def isBareKeyChar (c : Char) : Bool := c.isAlphanum || c == '_' || c == '-'

/-- One part of a key. -/
def scanKeyPart : Scan String
  | '"' :: rest => (basicText .plain rest).map fun (t, r) => (String.ofList t, r)
  | '\'' :: rest => (literalText rest).map fun (t, r) => (String.ofList t, r)
  | cs =>
    let part := cs.takeWhile isBareKeyChar
    if part.isEmpty then none else some (String.ofList part, cs.dropWhile isBareKeyChar)

/-- A key of at most `parts` parts with points between them, from its first part on; blanks may
stand around the points and after the key. -/
def scanKey : Nat → Scan (List String)
  | 0, _ => none
  | parts + 1, cs =>
    (scanKeyPart cs).bind fun (part, rest) =>
      match skipSpaces rest with
      | '.' :: more => (scanKey parts (skipSpaces more)).map fun (path, r) => (part :: path, r)
      | rest => some ([part], rest)

/-- The most parts that a key can have. -/
def maxKeyParts : Nat := 79

end StateHolders.Toml
