import StateHolders.Toml.Text
import StateHolders.Text.Quoted

/-!
# Written texts of a TOML document

A text is written in the plainest form that can hold it: between quotation marks if nothing in it
needs an escape, else between apostrophes, else with three marks and on several lines, and only
if no form can hold it as it is with escapes.
-/

namespace StateHolders.Toml

/-- A control character, which only an escape can stand for. Tab and line feed are none. -/
def isControl (c : Char) : Bool :=
  (c.toNat < 0x20 && c != '\t' && c != '\n') || c.toNat == 0x7F

/-- Whether `count` of the marks stand next to each other. `seen` is the number of marks that
stand directly before the text. -/
def hasRun (mark : Char) (count : Nat) : Nat → List Char → Bool
  | seen, [] => count ≤ seen
  | seen, c :: rest =>
    count ≤ seen || hasRun mark count (if c == mark then seen + 1 else 0) rest

/-- The forms of a written text. -/
inductive Form where
  /-- Between quotation marks. -/
  | basic
  /-- Between apostrophes. -/
  | literal
  /-- Between quotation marks, on several lines. -/
  | multilineBasic
  /-- Between apostrophes, on several lines. -/
  | multilineLiteral
deriving DecidableEq, Repr

/-- The form in which a text is written. -/
def Form.of (cs : List Char) : Form :=
  let controls := cs.any isControl
  let lines := cs.contains '\n'
  if !controls && !lines && !cs.contains '"' && !cs.contains '\\' then .basic
  else if !controls && !lines && !cs.contains '\'' then .literal
  else if !controls && !cs.contains '\\' && !hasRun '"' 3 0 cs then .multilineBasic
  else if !controls && !hasRun '\'' 3 0 cs then .multilineLiteral
  else if lines then .multilineBasic
  else .basic

/-- The four hexadecimal digits of a code point below 0x10000, in upper case. -/
def hexDigits4 (n : Nat) : List Char :=
  [n / 4096 % 16, n / 256 % 16, n / 16 % 16, n % 16].map fun d => (Nat.digitChar d).toUpper

/-- One character in a form with escapes; quotation marks and line feeds are not its work. -/
def escapedChar (c : Char) : List Char :=
  match c with
  | '\x08' => ['\\', 'b']
  | '\t' => ['\\', 't']
  | '\x0c' => ['\\', 'f']
  | '\r' => ['\\', 'r']
  | '\\' => ['\\', '\\']
  | c => if isControl c then ['\\', 'u'] ++ hexDigits4 c.toNat else [c]

/-- The characters of a text between quotation marks on one line. -/
def basicBody (cs : List Char) : List Char :=
  cs.flatMap fun c =>
    if c == '"' then ['\\', '"'] else if c == '\n' then ['\\', 'n'] else escapedChar c

/-- The characters of a text between quotation marks on several lines. Of three marks in a row the
last is escaped; `seen` marks stand before the text. -/
def multilineBasicBody : Nat → List Char → List Char
  | _, [] => []
  | seen, c :: rest =>
    if c == '"' then
      if seen == 2 then ['\\', '"'] ++ multilineBasicBody 0 rest
      else '"' :: multilineBasicBody (seen + 1) rest
    else if c == '\n' then '\n' :: multilineBasicBody 0 rest
    else escapedChar c ++ multilineBasicBody 0 rest

/-- A line feed if the text has one. -/
def firstLineEnd (cs : List Char) : List Char := if cs.contains '\n' then ['\n'] else []

/-- A text as a document holds it, with its marks. -/
def writtenText (s : String) : List Char :=
  let cs := s.toList
  match Form.of cs with
  | .basic => '"' :: basicBody cs ++ ['"']
  | .literal => '\'' :: cs ++ ['\'']
  | .multilineBasic =>
    "\"\"\"".toList ++ firstLineEnd cs ++ multilineBasicBody 0 cs ++ "\"\"\"".toList
  | .multilineLiteral => "'''".toList ++ firstLineEnd cs ++ cs ++ "'''".toList

/-- A truth value as a document holds it. -/
def writtenTruth (b : Bool) : List Char := (if b then "true" else "false").toList

/-- A text of an array on a line of its own. -/
def writtenItem (s : String) : List Char := "    ".toList ++ writtenText s ++ ",\n".toList

/-- An array of texts: on one line if it has at most one, else one text a line. -/
def writtenTexts : List String → List Char
  | [] => "[]".toList
  | [s] => '[' :: writtenText s ++ [']']
  | items => "[\n".toList ++ items.flatMap writtenItem ++ [']']

end StateHolders.Toml
