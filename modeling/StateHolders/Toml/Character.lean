/-!
# Characters of a TOML document

Which characters may stand where, and the blanks, comments and line ends that separate the parts
of a document.
-/

namespace StateHolders.Toml

/-- A scanner takes something from the front of the text and gives the rest, or refuses. -/
abbrev Scan (α : Type) := List Char → Option (α × List Char)

/-- A blank within a line. -/
def isSpace (c : Char) : Bool := c == ' ' || c == '\t'

/-- A character that may stand in a comment, and, quotation marks and backslash apart, in a text:
everything but the controls, of which only the tab is allowed. -/
def isPrintable (c : Char) : Bool := c == '\t' || (0x20 ≤ c.toNat && c.toNat != 0x7F)

/-- Skips blanks within a line. -/
def skipSpaces (cs : List Char) : List Char := cs.dropWhile isSpace

/-- Skips blanks, line ends and comments. `inComment` says whether the text begins inside a
comment; a control character there is refused. -/
def skipTrivia : Bool → List Char → Option (List Char)
  | _, [] => some []
  | true, c :: rest =>
    if c == '\n' then skipTrivia false rest
    else if c == '\r' then (if rest.head? == some '\n' then skipTrivia true rest else none)
    else if isPrintable c then skipTrivia true rest
    else none
  | false, c :: rest =>
    if isSpace c || c == '\n' then skipTrivia false rest
    else if c == '\r' && rest.head? == some '\n' then skipTrivia false rest
    else if c == '#' then skipTrivia true rest
    else some (c :: rest)

/-- Skips the rest of a comment up to its line end. -/
def skipComment : List Char → Option (List Char)
  | [] => some []
  | c :: rest =>
    if c == '\n' then some (c :: rest)
    else if c == '\r' then (if rest.head? == some '\n' then some (c :: rest) else none)
    else if isPrintable c then skipComment rest
    else none

/-- Skips blanks, a comment, and the end of the line or of the text, which has to be there. -/
def skipLineEnd (cs : List Char) : Option (List Char) :=
  let afterComment :=
    match skipSpaces cs with
    | '#' :: rest => skipComment rest
    | rest => some rest
  match afterComment with
  | some [] => some []
  | some ('\n' :: rest) => some rest
  | some ('\r' :: '\n' :: rest) => some rest
  | _ => none

end StateHolders.Toml
