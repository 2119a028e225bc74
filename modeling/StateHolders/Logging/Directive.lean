import StateHolders.Logging.Pattern.Reading
import StateHolders.Logging.Threshold
import StateHolders.Text.Cut
import StateHolders.Text.Utf8

/-!
# Directives of a filter

A directive is a level, a target, or a target with a level; a target alone lets every level pass.
Brackets can restrict a directive to events that have a given field, or to a scope. No part of this
program opens a scope, so a directive for a scope lets nothing pass.

A directive is read from its text without the blanks around it, but its parts are cut out of the
text with them, at the same numbers of bytes.
-/

namespace StateHolders.Logging

open Text (Fault slice)

/-- A directive of a filter. -/
structure Directive where
  /-- What the target of an event has to begin with. -/
  target : Option (List Char)
  /-- The field that an event has to have. -/
  field : Option (List Char)
  /-- Whether the directive concerns events in a scope only. -/
  inScope : Bool
  /-- What passes. -/
  threshold : Threshold
deriving DecidableEq, Repr

namespace Directive

/-- The directive without restrictions that lets every level pass. -/
def all : Directive := ⟨none, none, false, some .trace⟩

/-- The directive of a level. -/
def ofThreshold (t : Threshold) : Directive := { all with threshold := t }

/-! ## Fields -/

/-- Whether a text is a whole number of decimal digits after at most one sign. -/
def isExponent : List Char → Bool
  | '+' :: digits => !digits.isEmpty && digits.all Char.isDigit
  | '-' :: digits => !digits.isEmpty && digits.all Char.isDigit
  | digits => !digits.isEmpty && digits.all Char.isDigit

/-- Whether a text is a number without a sign: decimal digits, among which a point may stand, with
an exponent or without, or the name of a value that is none. -/
def isMagnitude (cs : List Char) : Bool :=
  let whole := cs.takeWhile Char.isDigit
  let afterWhole := cs.dropWhile Char.isDigit
  let (places, rest) := match afterWhole with
    | '.' :: rest => (rest.takeWhile Char.isDigit, rest.dropWhile Char.isDigit)
    | rest => ([], rest)
  let ends := match rest with
    | [] => true
    | e :: exponent => (e == 'e' || e == 'E') && isExponent exponent
  !(whole ++ places).isEmpty && ends ||
    ["inf", "infinity", "nan"].contains (String.ofList (cs.map Char.toLower))

/-- Whether a text is a number. -/
def isNumber : List Char → Bool
  | '+' :: rest => isMagnitude rest
  | '-' :: rest => isMagnitude rest
  | rest => isMagnitude rest

/-- Whether a field can be asked for with a value: a number, or a pattern that can be used. -/
def allowsValue (value : List Char) : Bool :=
  isNumber value || ((Pattern.ofText? value).map Pattern.isUsable).getD false

/-- Restricts a directive to events with a field. A field with a value concerns a scope only; the
value ends before a second sign of equality. -/
def withField (d : Directive) (field : List Char) : Except Fault Directive :=
  let named := { d with field := some (field.takeWhile (· != '=')) }
  if field.isEmpty then .error .malformed
  else
    match field.dropWhile (· != '=') with
    | [] => .ok named
    | _ :: rest =>
      if allowsValue (rest.takeWhile (· != '=')) then .ok { named with inScope := true }
      else .error .malformed

/-! ## Reading -/

/-- Where the reader of a directive stands. A number is the place in bytes at which the current
part begins. -/
inductive Place where
  /-- Before the first character. -/
  | start
  /-- In a level or a target. -/
  | levelOrTarget
  /-- In the name of a scope. -/
  | scope (start : Nat)
  /-- In a field. -/
  | field (start : Nat)
  /-- After the field. -/
  | afterField
  /-- After the brackets. -/
  | target
  /-- In a level. -/
  | level (start : Nat)
deriving DecidableEq, Repr

/-- Ends a directive at a level. A level that is left out lets everything pass. -/
def withLevel (d : Directive) (level : List Char) : Except Fault Directive :=
  if level.isEmpty then .ok d
  else
    match threshold? level with
    | some t => .ok { d with threshold := t }
    | none => .error .malformed

/-- The directive that is a level or a target. -/
def levelOrTarget (text : List Char) : Directive :=
  match threshold? text with
  | some t => ofThreshold t
  | none => { all with target := some text }

/-- Whether a directive can begin with a character, brackets apart. -/
def canBegin (c : Char) : Bool := c == '-' || c == ':' || c == '_' || Text.isAlphanumeric c

/-- Reads a directive from a place on, which is `i` bytes after the beginning. The characters left
are those of the trimmed text, while its parts are cut out of `text`, the text with its blanks. -/
def read (text : List Char) (i : Nat) (place : Place) (d : Directive) :
    List Char → Except Fault Directive
  | [] =>
    match place with
    | .levelOrTarget => .ok (levelOrTarget text)
    | .level start => do d.withLevel (← slice start (Text.byteLength text) text)
    | .target => .ok d
    | _ => .error .malformed
  | c :: rest =>
    let next := i + c.utf8Size
    match place with
    | .start =>
      if c == '[' then read text next (.scope next) d rest
      else if canBegin c then read text next .levelOrTarget d rest
      else .error .malformed
    | .levelOrTarget =>
      if c == '=' then do
        read text next (.level next) { d with target := some (← slice 0 i text) } rest
      else if c == '[' then do
        read text next (.scope next) { d with target := some (← slice 0 i text) } rest
      else read text next .levelOrTarget d rest
    | .scope start =>
      if c == ']' then do
        let _ ← slice start i text
        read text next .target { d with inScope := true } rest
      else if c == '\x7b' then do
        let scope ← slice start i text
        read text next (.field next) { d with inScope := !scope.isEmpty } rest
      else read text next (.scope start) d rest
    | .field start =>
      if c == '\x7d' then do
        read text next .afterField (← d.withField (← slice start i text)) rest
      else read text next (.field start) d rest
    | .afterField => if c == ']' then read text next .target d rest else .error .malformed
    | .target => if c == '=' then read text next (.level next) d rest else .error .malformed
    | .level start => read text next (.level start) d rest

/-- The directive that a text spells. -/
def ofText (text : List Char) : Except Fault Directive := read text 0 .start all (Text.trim text)

/-! ## Precedence -/

/-- Whether a directive concerns an event of a target with fields of given names. -/
def concerns (d : Directive) (target : List Char) (fields : List (List Char)) : Bool :=
  !d.inScope &&
    (match d.target with
      | none => true
      | some start => start.isPrefixOf target) &&
    (match d.field with
      | none => true
      | some name => fields.contains name)

/-- How much the target of a directive says: nothing, or its length. -/
def targetSize (d : Directive) : Nat :=
  match d.target with
  | none => 0
  | some start => Text.byteLength start + 1

/-- The name of the field of a directive; without a field it is empty. -/
def fieldName (d : Directive) : String := String.ofList (d.field.getD [])

/-- Whether `d` decides before `other`, or is alike: the one with the longer target, else the one
with a field, and of two fields the one that is later in the alphabet. -/
def atLeast (d other : Directive) : Bool :=
  other.targetSize < d.targetSize ||
    (other.targetSize == d.targetSize && Text.precedes other.fieldName d.fieldName)

end Directive

end StateHolders.Logging
