/-!
# Patterns of field values

A directive can ask for a field whose value matches a regular expression. A pattern is such an
expression as it is written. It can be used if it is not nested too deeply and asks for nothing
that needs properties of characters beyond ASCII, which are not at hand: while Unicode is on, there
are no classes by name, no boundaries of words and no letters without case; while it is off,
nothing may match half a character.
-/

namespace StateHolders.Logging

/-- How the following part of a pattern is taken. -/
structure PatternMode where
  /-- Whether classes reach beyond ASCII. -/
  unicode : Bool
  /-- Whether case does not matter. -/
  caseless : Bool
deriving DecidableEq, Repr

/-- What a group or a list of flags changes; `none` leaves a setting as it is. -/
structure PatternFlags where
  /-- Whether classes reach beyond ASCII. -/
  unicode : Option Bool
  /-- Whether case does not matter. -/
  caseless : Option Bool
  /-- Whether blanks and comments are skipped. -/
  spaced : Option Bool
deriving DecidableEq, Repr

/-- No change. -/
def PatternFlags.none : PatternFlags := ⟨.none, .none, .none⟩

/-- The mode after a change. -/
def PatternMode.change (m : PatternMode) (flags : PatternFlags) : PatternMode :=
  ⟨flags.unicode.getD m.unicode, flags.caseless.getD m.caseless⟩

/-- A character in a pattern. -/
structure PatternChar where
  /-- The character. -/
  char : Char
  /-- Whether it is written as a byte, in two hexadecimal digits. -/
  asByte : Bool
deriving DecidableEq, Repr

/-- What stands in a class of characters in brackets. -/
inductive CharSet where
  /-- Nothing. -/
  | empty
  /-- A character. -/
  | literal (c : PatternChar)
  /-- The characters from one to another. -/
  | range (first last : PatternChar)
  /-- An ASCII class by its name. -/
  | named (negated : Bool)
  /-- A class by a letter: digits, blanks or word characters. -/
  | kind (negated : Bool)
  /-- The characters with a Unicode property. -/
  | property
  /-- A class in brackets. -/
  | bracket (negated : Bool) (content : CharSet)
  /-- Several items, of which one has to fit. -/
  | union (items : List CharSet)
  /-- The intersection or a difference of two parts. -/
  | operation (first second : CharSet)

/-- A pattern as it is written. -/
inductive Pattern where
  /-- Nothing. -/
  | empty
  /-- Flags for what follows in the group. -/
  | flags (change : PatternFlags)
  /-- A character. -/
  | literal (c : PatternChar)
  /-- Any character. -/
  | dot
  /-- The beginning or the end of a line or of the whole text. -/
  | lineEdge
  /-- The beginning or the end of a word, or neither of them. -/
  | wordEdge
  /-- A class by a letter. -/
  | kind (negated : Bool)
  /-- The characters with a Unicode property. -/
  | property
  /-- A class in brackets. -/
  | set (s : CharSet)
  /-- A part that may be missing or repeated. -/
  | repeated (p : Pattern)
  /-- A part in parentheses, with flags of its own. -/
  | group (change : PatternFlags) (p : Pattern)
  /-- Parts of which one has to fit. -/
  | choice (ps : List Pattern)
  /-- Parts one after the other. -/
  | sequence (ps : List Pattern)

/-! ## Classes -/

namespace CharSet

/-- The items of a class as one. -/
def ofItems : List CharSet → CharSet
  | [] => .empty
  | [s] => s
  | items => .union items

mutual

/-- How deeply a class is nested. -/
def depth : CharSet → Nat
  | .bracket _ s => s.depth + 1
  | .union items => depthOfAll items + 1
  | .operation a b => max a.depth b.depth + 1
  | _ => 0

/-- How deeply items are nested. -/
def depthOfAll : List CharSet → Nat
  | [] => 0
  | s :: rest => max s.depth (depthOfAll rest)

end

/-- Whether a character can stand in a class. -/
def allowsChar (m : PatternMode) (c : PatternChar) : Bool :=
  if m.unicode then !m.caseless else c.char.toNat < 0x80

mutual

/-- Whether a class can be used. -/
def isUsable (m : PatternMode) : CharSet → Bool
  | .empty => true
  | .literal c => allowsChar m c
  | .range a b => allowsChar m a && allowsChar m b
  | .named negated => if m.unicode then !m.caseless else !negated
  | .kind negated => !m.unicode && !negated
  | .property => false
  | .bracket negated s => (m.unicode || !negated) && s.isUsable m
  | .union items => areUsable m items
  | .operation a b => a.isUsable m && b.isUsable m

/-- Whether items can be used. -/
def areUsable (m : PatternMode) : List CharSet → Bool
  | [] => true
  | s :: rest => s.isUsable m && areUsable m rest

end

end CharSet

/-! ## Patterns -/

namespace Pattern

/-- Parts one after the other, as one. -/
def ofSequence : List Pattern → Pattern
  | [] => .empty
  | [p] => p
  | ps => .sequence ps

/-- The item of a class that stands for the same characters. -/
def toCharSet? : Pattern → Option CharSet
  | .literal c => some (.literal c)
  | .kind negated => some (.kind negated)
  | .property => some .property
  | _ => none

mutual

/-- How deeply a pattern is nested. -/
def depth : Pattern → Nat
  | .set s => s.depth
  | .repeated p => p.depth + 1
  | .group _ p => p.depth + 1
  | .choice ps => depthOfAll ps + 1
  | .sequence ps => depthOfAll ps + 1
  | _ => 0

/-- How deeply parts are nested. -/
def depthOfAll : List Pattern → Nat
  | [] => 0
  | p :: rest => max p.depth (depthOfAll rest)

end

/-- Whether a character can stand outside a class. -/
def allowsChar (m : PatternMode) (c : PatternChar) : Bool :=
  if m.unicode then !m.caseless else !c.asByte || c.char.toNat < 0x80

/-- The mode, if a part can be used. -/
def keep (m : PatternMode) (usable : Bool) : Option PatternMode := if usable then some m else none

mutual

/-- The mode after a part of a pattern, if the part can be used. -/
def modeAfter? (m : PatternMode) : Pattern → Option PatternMode
  | .empty => some m
  | .flags change => some (m.change change)
  | .literal c => keep m (allowsChar m c)
  | .dot => keep m m.unicode
  | .lineEdge => some m
  | .wordEdge => keep m !m.unicode
  | .kind negated => keep m (!m.unicode && !negated)
  | .property => none
  | .set s => keep m (s.isUsable m)
  | .repeated p => modeAfter? m p
  | .group change p => (modeAfter? (m.change change) p).map fun _ => m
  | .choice ps => modeAfterAll? m ps
  | .sequence ps => modeAfterAll? m ps

/-- The mode after parts of a pattern, if they can be used. -/
def modeAfterAll? (m : PatternMode) : List Pattern → Option PatternMode
  | [] => some m
  | p :: rest => (modeAfter? m p).bind fun m => modeAfterAll? m rest

end

/-- How deeply a pattern can be nested. -/
def maxDepth : Nat := 250

/-- Whether a pattern can be used. At its beginning Unicode is on and case matters. -/
def isUsable (p : Pattern) : Bool := p.depth ≤ maxDepth && (p.modeAfter? ⟨true, false⟩).isSome

end Pattern

end StateHolders.Logging
