import StateHolders.Text.Utf8

/-!
# Texts without control sequences

A text that is meant for a terminal can hold sequences that control it: an escape character and
what belongs to it, up to the end of a command or of a quoted string. `withoutSequences` drops them
and all other controls but line ends, tabs and form feeds. Nothing is left open at the end; what
follows an unfinished sequence belongs to it.
-/

namespace StateHolders.Text

/-- What the reader of a text for a terminal is in the middle of. -/
inductive TerminalState where
  /-- Visible text. -/
  | visible
  /-- After an escape character. -/
  | escape
  /-- In a sequence of an escape character and a middle part. -/
  | escapeMiddle
  /-- In a control sequence after an opening bracket. -/
  | control
  /-- At the beginning of a device control string. -/
  | deviceStart
  /-- In the numbers of a device control string. -/
  | deviceNumbers
  /-- In the middle part of a device control string. -/
  | deviceMiddle
  /-- In a string that an end-of-string byte closes. -/
  | quoted
  /-- In a command for the system, which a bell closes. -/
  | command
deriving DecidableEq, Repr

namespace TerminalState

/-- The controls that stay in a text. -/
def isLayout (c : Char) : Bool := c == '\t' || c == '\n' || c == '\x0c' || c == '\r'

/-- Whether a visible character below 0x80 belongs to the middle of a sequence. -/
def isMiddle (c : Char) : Bool := ' ' ≤ c && c ≤ '/'

/-- Whether a character can end a sequence. -/
def isFinal (c : Char) : Bool := '0' ≤ c && c ≤ '~'

/-- The state after a character behind an escape character. -/
def afterEscape (c : Char) : TerminalState :=
  match c with
  | '[' => .control
  | ']' => .command
  | 'P' => .deviceStart
  | 'X' => .quoted
  | '^' => .quoted
  | '_' => .quoted
  | _ => if isMiddle c then .escapeMiddle else if isFinal c then .visible else .escape

/-- Whether the encoding of a character holds the byte that ends a string. -/
def endsString (c : Char) : Bool := (utf8 (String.singleton c)).contains 0x9C

/-- The state after a character that is not an escape character and cancels nothing. -/
def step (s : TerminalState) (c : Char) : TerminalState :=
  match s with
  | .visible => .visible
  | .escape => if isLayout c then .visible else afterEscape c
  | .escapeMiddle => if isLayout c || isFinal c then .visible else .escapeMiddle
  | .control => if isLayout c || ('@' ≤ c && c ≤ '~') then .visible else .control
  | .deviceStart =>
    if isMiddle c then .deviceMiddle
    else if '0' ≤ c && c ≤ '?' then .deviceNumbers
    else if '@' ≤ c && c ≤ '~' then .quoted
    else .deviceStart
  | .deviceNumbers =>
    if isMiddle c then .deviceMiddle
    else if '<' ≤ c && c ≤ '~' then .quoted
    else .deviceNumbers
  | .deviceMiddle => if isFinal c then .quoted else .deviceMiddle
  | .quoted => if endsString c then .visible else .quoted
  | .command => if c == '\x07' then .visible else .command

/-- Whether a character is shown. Layout also ends the sequences that are no strings. -/
def shows (s : TerminalState) (c : Char) : Bool :=
  match s with
  | .visible => isLayout c || (' ' ≤ c && c != '\x7f')
  | .escape => isLayout c
  | .escapeMiddle => isLayout c
  | .control => isLayout c
  | _ => false

/-- The state after any character. An escape character begins a new sequence everywhere, and two
controls cancel what is open. -/
def next (s : TerminalState) (c : Char) : TerminalState :=
  if c == '\x1b' then .escape
  else if c == '\x18' || c == '\x1a' then .visible
  else s.step c

/-- What is shown of a text from some state on. -/
def shown : TerminalState → List Char → List Char
  | _, [] => []
  | s, c :: rest => if s.shows c then c :: shown (s.next c) rest else shown (s.next c) rest

end TerminalState

/-- A text without the sequences that control a terminal. -/
def withoutSequences (s : String) : String := String.ofList (TerminalState.shown .visible s.toList)

end StateHolders.Text
