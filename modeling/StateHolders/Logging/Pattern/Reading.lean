import StateHolders.Logging.Pattern
import StateHolders.Text.Alphanumeric
import StateHolders.Text.Blank
import StateHolders.Text.CodePoint

/-!
# Reading patterns

A pattern stands between braces, so it holds no closing brace, and neither counted repetitions nor
names in braces can be completed. The reader keeps what is open: the alternatives and parts of each
group around the current place. `spaced` says that blanks and comments are skipped.
-/

namespace StateHolders.Logging.Pattern

/-- Reads something at the front of a text and gives what follows it. -/
abbrev Scan (α : Type) := List Char → Option (α × List Char)

/-! ## Blanks -/

/-- Skips blanks and comments, which go from a number sign to the end of the line. -/
def skipBlanks (inComment : Bool) : List Char → List Char
  | [] => []
  | c :: rest =>
    if inComment then skipBlanks (c != '\n') rest
    else if Text.isBlank c then skipBlanks false rest
    else if c == '#' then skipBlanks true rest
    else c :: rest

/-- Skips blanks and comments where they do not count. -/
def skip (spaced : Bool) (cs : List Char) : List Char :=
  if spaced then skipBlanks false cs else cs

/-- What is left after blanks, if anything is. -/
def more? (spaced : Bool) (cs : List Char) : Option (List Char) :=
  match skip spaced cs with
  | [] => none
  | rest => some rest

/-- The character after a hyphen. Where blanks do not count it is the first visible one, also in a
comment. -/
def afterHyphen? (spaced : Bool) (cs : List Char) : Option Char :=
  if spaced then
    match cs.dropWhile Text.isBlank with
    | '#' :: rest => (rest.dropWhile Text.isBlank).head?
    | rest => rest.head?
  else cs.head?

/-! ## Escapes -/

/-- A character by itself. -/
def plainChar (c : Char) : Pattern := .literal ⟨c, false⟩

/-- The character that a letter after a backslash stands for. -/
def letterEscape? (c : Char) : Option Char :=
  match c with
  | 'a' => some '\x07'
  | 'f' => some '\x0c'
  | 't' => some '\t'
  | 'n' => some '\n'
  | 'r' => some '\r'
  | 'v' => some '\x0b'
  | _ => none

/-- Whether a backslash makes the character stand for itself: the ASCII characters but letters,
digits and angle brackets. -/
def standsForItself (c : Char) : Bool :=
  c.toNat < 0x80 && !c.isAlphanum && c != '<' && c != '>'

/-- Reads `left + 1` hexadecimal digits. -/
def hexDigits (spaced : Bool) : (left value : Nat) → Scan Nat
  | _, _, [] => none
  | 0, value, c :: rest => (Text.hexValue? c).map fun d => (value * 16 + d, skip spaced rest)
  | left + 1, value, c :: rest =>
    (Text.hexValue? c).bind fun d =>
      (more? spaced rest).bind (hexDigits spaced left (value * 16 + d))

/-- Reads a character by its code point, in `left + 1` digits. -/
def codeEscape (spaced asByte : Bool) (left : Nat) : Scan Pattern := fun cs =>
  (more? spaced cs).bind fun cs =>
    (hexDigits spaced left 0 cs).bind fun (n, rest) =>
      (Text.charOfCode? n).map fun c => (.literal ⟨c, asByte⟩, rest)

/-- Reads a property by one letter. -/
def propertyEscape (spaced : Bool) : Scan Pattern := fun cs =>
  match more? spaced cs with
  | some (c :: rest) =>
    if c == '\\' || c == '\x7b' then none else some (.property, skip spaced rest)
  | _ => none

/-- Reads an escape after its backslash. -/
def escape (spaced : Bool) : Scan Pattern
  | [] => none
  | c :: rest =>
    match c with
    | 'x' => codeEscape spaced true 1 rest
    | 'u' => codeEscape spaced false 3 rest
    | 'U' => codeEscape spaced false 7 rest
    | 'p' => propertyEscape spaced rest
    | 'P' => propertyEscape spaced rest
    | 'd' => some (.kind false, rest)
    | 's' => some (.kind false, rest)
    | 'w' => some (.kind false, rest)
    | 'D' => some (.kind true, rest)
    | 'S' => some (.kind true, rest)
    | 'W' => some (.kind true, rest)
    | 'A' => some (.lineEdge, rest)
    | 'z' => some (.lineEdge, rest)
    | 'b' => some (.wordEdge, rest)
    | 'B' => some (.wordEdge, rest)
    | '<' => some (.wordEdge, rest)
    | '>' => some (.wordEdge, rest)
    | _ =>
      if standsForItself c then some (plainChar c, rest)
      else (letterEscape? c).map fun d => (plainChar d, rest)

/-! ## Classes in brackets -/

/-- The names of the ASCII classes. -/
def classNames : List String :=
  ["alnum", "alpha", "ascii", "blank", "cntrl", "digit", "graph", "lower", "print", "punct",
    "space", "upper", "word", "xdigit"]

/-- Reads an ASCII class by its name, after its opening bracket. -/
def namedClass : Scan CharSet
  | ':' :: rest =>
    let (negated, rest) := match rest with
      | '^' :: rest => (true, rest)
      | rest => (false, rest)
    match rest.dropWhile (· != ':') with
    | ':' :: ']' :: after =>
      if classNames.contains (String.ofList (rest.takeWhile (· != ':'))) then
        some (.named negated, after)
      else none
    | _ => none
  | _ => none

/-- Reads one end of a range. -/
def classItem (spaced : Bool) : Scan Pattern
  | [] => none
  | '\\' :: rest => escape spaced rest
  | c :: rest => some (plainChar c, rest)

/-- Reads a character, a range or an escape in a class. -/
def classRange (spaced : Bool) : Scan CharSet := fun cs => do
  let (first, rest) ← classItem spaced cs
  let rest ← more? spaced rest
  match rest with
  | '-' :: afterHyphen =>
    let next := afterHyphen? spaced afterHyphen
    if next == some ']' || next == some '-' then return (← first.toCharSet?, rest)
    else
      let (last, rest) ← classItem spaced (← more? spaced afterHyphen)
      match first, last with
      | .literal a, .literal b => if a.char ≤ b.char then return (.range a b, rest) else none
      | _, _ => none
  | _ => return (← first.toCharSet?, rest)

/-- Reads the hyphens with which a class may begin. -/
def leadingHyphens (spaced : Bool) : Nat → List CharSet → Scan (List CharSet)
  | 0, _, _ => none
  | fuel + 1, items, cs =>
    match cs with
    | '-' :: rest =>
      (more? spaced rest).bind (leadingHyphens spaced fuel (.literal ⟨'-', false⟩ :: items))
    | rest => some (items, rest)

/-- Reads the beginning of a class, after its bracket: whether it is negated, and the characters
that can stand for themselves only there. -/
def classStart (spaced : Bool) : Scan (Bool × List CharSet) := fun cs => do
  let cs ← more? spaced cs
  let (negated, cs) ← match cs with
    | '^' :: rest => (more? spaced rest).map fun rest => (true, rest)
    | rest => some (false, rest)
  let (items, cs) ← leadingHyphens spaced (cs.length + 1) [] cs
  match items, cs with
  | [], ']' :: rest => return ((negated, [.literal ⟨']', false⟩]), ← more? spaced rest)
  | items, rest => return ((negated, items), rest)

/-- The items of a class, the last one first, as the second part of an operation, if one is
open. -/
def closeItems (first : Option CharSet) (items : List CharSet) : CharSet :=
  let second := CharSet.ofItems items.reverse
  match first with
  | none => second
  | some first => .operation first second

/-- Reads the rest of a class up to its closing bracket. `first` is what stands before the last
operator. The second argument bounds the number of steps. -/
def classRest (spaced : Bool) :
    Nat → (first : Option CharSet) → (items : List CharSet) → Scan CharSet
  | 0, _, _, _ => none
  | fuel + 1, first, items, cs =>
    match skip spaced cs with
    | [] => none
    | '[' :: rest =>
      match namedClass rest with
      | some (named, rest) => classRest spaced fuel first (named :: items) rest
      | none => do
        let ((negated, inner), rest) ← classStart spaced rest
        let (content, rest) ← classRest spaced fuel none inner rest
        classRest spaced fuel first (.bracket negated content :: items) rest
    | ']' :: rest => some (closeItems first items, rest)
    | '&' :: '&' :: rest => classRest spaced fuel (some (closeItems first items)) [] rest
    | '-' :: '-' :: rest => classRest spaced fuel (some (closeItems first items)) [] rest
    | '~' :: '~' :: rest => classRest spaced fuel (some (closeItems first items)) [] rest
    | rest => do
      let (item, rest) ← classRange spaced rest
      classRest spaced fuel first (item :: items) rest

/-- Reads a class after its opening bracket. -/
def bracketClass (spaced : Bool) : Scan CharSet := fun cs => do
  let ((negated, items), rest) ← classStart spaced cs
  let (content, rest) ← classRest spaced (cs.length + 1) none items rest
  return (.bracket negated content, rest)

/-! ## Groups -/

/-- Sets one flag, if there is such a flag. -/
def setFlag? (c : Char) (on : Bool) (change : PatternFlags) : Option PatternFlags :=
  match c with
  | 'u' => some { change with unicode := some on }
  | 'i' => some { change with caseless := some on }
  | 'x' => some { change with spaced := some on }
  | 'm' => some change
  | 's' => some change
  | 'U' => some change
  | 'R' => some change
  | _ => none

/-- Reads flags up to a colon or a closing parenthesis, which stays. `seen` are the letters so far;
one hyphen may stand among them, and not at their end. -/
def groupFlags (seen : List Char) (change : PatternFlags) :
    Scan (List Char × PatternFlags)
  | [] => none
  | c :: rest =>
    if c == ':' || c == ')' then
      if seen.head? == some '-' then none else some ((seen, change), c :: rest)
    else if seen.contains c then none
    else if c == '-' then groupFlags (c :: seen) change rest
    else
      (setFlag? c (!seen.contains '-') change).bind fun change =>
        groupFlags (c :: seen) change rest

/-- Whether a character can stand in the name of a group. -/
def isNameChar (isFirst : Bool) (c : Char) : Bool :=
  c == '_' ||
    (if isFirst then Text.isAlphabetic c else ".[]".toList.contains c || Text.isAlphanumeric c)

/-- Reads the name of a group and the angle bracket after it. -/
def groupName : Scan (List Char) := fun cs =>
  match cs.takeWhile (· != '>'), cs.dropWhile (· != '>') with
  | c :: name, '>' :: rest =>
    if isNameChar true c && name.all (isNameChar false) then some (c :: name, rest) else none
  | _, _ => none

/-- A group around the current place. -/
structure OpenGroup where
  /-- What the group changes. -/
  change : PatternFlags
  /-- Whether blanks are skipped around the group. -/
  spaced : Bool
  /-- The alternatives around the group, the last one first. -/
  branches : List Pattern
  /-- The parts before the group, the last one first. -/
  parts : List Pattern

/-- What was read so far. -/
structure Reading where
  /-- Whether blanks are skipped. -/
  spaced : Bool
  /-- The names of groups. -/
  names : List (List Char)
  /-- The groups around the current place, the innermost first. -/
  groups : List OpenGroup
  /-- The alternatives in the innermost group, the last one first. -/
  branches : List Pattern
  /-- The parts of the current alternative, the last one first. -/
  parts : List Pattern

namespace Reading

/-- Nothing was read so far. -/
def start : Reading := ⟨false, [], [], [], []⟩

/-- Adds a part. -/
def add (r : Reading) (p : Pattern) : Reading := { r with parts := p :: r.parts }

/-- Ends an alternative. -/
def endBranch (r : Reading) : Reading :=
  { r with branches := ofSequence r.parts.reverse :: r.branches, parts := [] }

/-- The content of the innermost group. -/
def content (r : Reading) : Pattern :=
  let last := ofSequence r.parts.reverse
  if r.branches.isEmpty then last else .choice (last :: r.branches).reverse

/-- Opens a group. -/
def openGroup (r : Reading) (change : PatternFlags) : Reading :=
  { r with
    spaced := change.spaced.getD r.spaced
    groups := ⟨change, r.spaced, r.branches, r.parts⟩ :: r.groups
    branches := []
    parts := [] }

/-- Closes the innermost group, if there is one. -/
def closeGroup? (r : Reading) : Option Reading :=
  match r.groups with
  | [] => none
  | g :: groups =>
    some
      { r with
        spaced := g.spaced
        groups := groups
        branches := g.branches
        parts := .group g.change r.content :: g.parts }

/-- Lets the last part be repeated. Flags are no part that can be. -/
def repeatLast? (r : Reading) : Option Reading :=
  match r.parts with
  | [] => none
  | .flags _ :: _ => none
  | p :: parts => some { r with parts := .repeated p :: parts }

/-- Opens a group with a name, which is new. -/
def openNamed? (r : Reading) : Scan Reading := fun cs =>
  (groupName cs).bind fun (name, rest) =>
    if r.names.contains name then none
    else some ({ r with names := name :: r.names }.openGroup .none, rest)

/-- Opens a group after its parenthesis, or sets flags for the rest of the innermost group. -/
def parenthesis? (r : Reading) : Scan Reading := fun cs =>
  match skip r.spaced cs with
  | '?' :: 'P' :: '<' :: rest => r.openNamed? rest
  | '?' :: '<' :: c :: rest =>
    if c == '=' || c == '!' then none else r.openNamed? (c :: rest)
  | '?' :: rest =>
    match groupFlags [] .none rest with
    | some ((_, change), ':' :: rest) => some (r.openGroup change, rest)
    | some ((seen, change), _ :: rest) =>
      if seen.isEmpty then none
      else some ({ r with spaced := change.spaced.getD r.spaced }.add (.flags change), rest)
    | _ => none
  | rest => some (r.openGroup .none, rest)

/-- Reads the next part of a pattern. -/
def step (r : Reading) : Scan Reading
  | [] => none
  | c :: rest =>
    match c with
    | '(' => r.parenthesis? rest
    | ')' => r.closeGroup?.map fun r => (r, rest)
    | '|' => some (r.endBranch, rest)
    | '[' => (bracketClass r.spaced rest).map fun (s, rest) => (r.add (.set s), rest)
    | '\x7b' => none
    | '\\' => (escape r.spaced rest).map fun (p, rest) => (r.add p, rest)
    | '.' => some (r.add .dot, rest)
    | '^' => some (r.add .lineEdge, rest)
    | '$' => some (r.add .lineEdge, rest)
    | _ =>
      if c == '?' || c == '*' || c == '+' then
        let rest := if rest.head? == some '?' then rest.drop 1 else rest
        r.repeatLast?.map fun r => (r, rest)
      else some (r.add (plainChar c), rest)

/-- Reads the rest of a pattern. The first argument bounds the number of parts. -/
def readRest (r : Reading) : Nat → List Char → Option Pattern
  | 0, _ => none
  | fuel + 1, cs =>
    match skip r.spaced cs with
    | [] => if r.groups.isEmpty then some r.content else none
    | rest => (r.step rest).bind fun (r, rest) => r.readRest fuel rest

end Reading

/-- The pattern that a text spells. -/
def ofText? (text : List Char) : Option Pattern := Reading.start.readRest (text.length + 1) text

end StateHolders.Logging.Pattern
