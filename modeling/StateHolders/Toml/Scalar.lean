import StateHolders.Text.CodePoint
import StateHolders.Toml.Character
import StateHolders.Toml.Value

/-!
# Scalars of a TOML document

Truth values, numbers and points in time are words: the longest run of characters that can stand
in one. A word is read as a whole or refused; only a date and a time can be two words, with one
blank between them.
-/

namespace StateHolders.Toml

/-- A character that can stand in a word. -/
def isWordChar (c : Char) : Bool := c.isAlphanum || "_+-.:".toList.contains c

/-! ## Digits -/

/-- The value of decimal digits. -/
def digitsValue (base : Nat) (digits : List Nat) : Nat :=
  digits.foldl (fun n d => n * base + d) 0

/-- The digits of a word in which single underscores may stand between digits. `afterDigit` says
whether a digit came before. -/
def groupedDigits (digit? : Char → Option Nat) : Bool → List Char → Option (List Nat)
  | afterDigit, [] => if afterDigit then some [] else none
  | afterDigit, c :: rest =>
    if c == '_' then (if afterDigit then groupedDigits digit? false rest else none)
    else (digit? c).bind fun d => (groupedDigits digit? true rest).map (d :: ·)

/-- The value of a digit below the base. -/
def digitBelow? (base : Nat) (c : Char) : Option Nat :=
  (Text.hexValue? c).bind fun d => if d < base then some d else none

/-- A decimal number that does not begin with a zero, unless it is zero. -/
def plainDigits? (cs : List Char) : Option (List Nat) :=
  (groupedDigits (digitBelow? 10) false cs).bind fun digits =>
    if digits.head? = some 0 ∧ cs.length ≠ 1 then none else some digits

/-- Splits off a sign; `true` stands for the minus. -/
def splitSign : List Char → Bool × List Char
  | '-' :: rest => (true, rest)
  | '+' :: rest => (false, rest)
  | rest => (false, rest)

/-- Whether a whole number has 64 bits, the sign included. -/
def fits64 (n : Int) : Bool := -0x8000000000000000 ≤ n && n < 0x8000000000000000

/-- A whole number: decimal with a sign, or in base sixteen, eight or two without. -/
def wholeNumber? (word : List Char) : Option Int :=
  let based (base : Nat) (cs : List Char) : Option Int :=
    (groupedDigits (digitBelow? base) false cs).map fun ds => (digitsValue base ds : Int)
  let value :=
    match word with
    | '0' :: 'x' :: rest => based 16 rest
    | '0' :: 'o' :: rest => based 8 rest
    | '0' :: 'b' :: rest => based 2 rest
    | _ =>
      let (negative, rest) := splitSign word
      (plainDigits? rest).map fun ds =>
        let n : Int := digitsValue 10 ds
        if negative then -n else n
  value.bind fun n => if fits64 n then some n else none

/-- The exponent after its letter. -/
def exponent? (cs : List Char) : Option Int :=
  let (negative, rest) := splitSign cs
  (groupedDigits (digitBelow? 10) false rest).map fun ds =>
    let n : Int := digitsValue 10 ds
    if negative then -n else n

/-- A number with a fraction, an exponent, or both. A word that is too large for a double is
refused, a word that is too small below zero is not. -/
def fraction? (word : List Char) : Option Decimal.Binary64 :=
  let (negative, rest) := splitSign word
  if rest = "inf".toList then some (.infinite negative)
  else if rest = "nan".toList then some .nan
  else
    let isMark := fun c : Char => c == 'e' || c == 'E'
    let beforeMark := rest.takeWhile (!isMark ·)
    let whole := beforeMark.takeWhile (· != '.')
    let places? : Option (List Nat) :=
      match beforeMark.dropWhile (· != '.') with
      | [] => some []
      | _ :: places => groupedDigits (digitBelow? 10) false places
    let exponent? : Option Int :=
      match rest.dropWhile (!isMark ·) with
      | [] => some 0
      | _ :: cs => exponent? cs
    if whole.length = rest.length then none
    else
      (plainDigits? whole).bind fun ds => places?.bind fun places => exponent?.bind fun e =>
        let x := Decimal.Binary64.ofDecimal negative (digitsValue 10 (ds ++ places))
          (e - places.length)
        if x = .infinite false then none else some x

/-! ## Points in time -/

/-- Takes as many decimal digits as asked for. -/
def takeDigits : Nat → Scan Nat
  | 0, cs => some (0, cs)
  | n + 1, c :: rest =>
    (digitBelow? 10 c).bind fun d =>
      (takeDigits n rest).map fun (value, r) => (d * Nat.pow 10 n + value, r)
  | _ + 1, [] => none

/-- Takes one given character. -/
def takeChar (wanted : Char) : List Char → Option (List Char)
  | [] => none
  | c :: rest => if c == wanted then some rest else none

/-- The number of days of a month. -/
def daysOfMonth (year month : Nat) : Nat :=
  let leap := year % 4 == 0 && (year % 100 != 0 || year % 400 == 0)
  if month == 2 then (if leap then 29 else 28)
  else if [4, 6, 9, 11].contains month then 30
  else 31

/-- Takes a date. -/
def takeDate (cs : List Char) : Option (List Char) :=
  (takeDigits 4 cs).bind fun (year, cs) => (takeChar '-' cs).bind fun cs =>
    (takeDigits 2 cs).bind fun (month, cs) => (takeChar '-' cs).bind fun cs =>
      (takeDigits 2 cs).bind fun (day, cs) =>
        if 1 ≤ month ∧ month ≤ 12 ∧ 1 ≤ day ∧ day ≤ daysOfMonth year month then some cs else none

/-- Takes a time of day with its seconds; digits may follow a point. -/
def takeTime (cs : List Char) : Option (List Char) :=
  (takeDigits 2 cs).bind fun (hour, cs) => (takeChar ':' cs).bind fun cs =>
    (takeDigits 2 cs).bind fun (minute, cs) => (takeChar ':' cs).bind fun cs =>
      (takeDigits 2 cs).bind fun (second, cs) =>
        if 23 < hour ∨ 59 < minute ∨ 60 < second then none
        else
          match cs with
          | '.' :: places =>
            if places.head?.any Char.isDigit then some (places.dropWhile Char.isDigit) else none
          | cs => some cs

/-- Takes an offset from universal time, if there is one. -/
def takeOffset (cs : List Char) : Option (List Char) :=
  match cs with
  | 'Z' :: rest => some rest
  | 'z' :: rest => some rest
  | c :: rest =>
    if c == '+' || c == '-' then
      (takeDigits 2 rest).bind fun (hour, cs) => (takeChar ':' cs).bind fun cs =>
        (takeDigits 2 cs).bind fun (minute, cs) =>
          if 23 < hour ∨ 59 < minute then none else some cs
    else some cs
  | [] => some []

/-- Whether the word is a time of day with or without an offset. -/
def isTimeWithOffset (cs : List Char) : Bool := ((takeTime cs).bind takeOffset) = some []

/-- Whether the word is a time of day, a date, or a date and a time. -/
def isMoment (word : List Char) : Bool :=
  match takeDate word with
  | some [] => true
  | some (c :: rest) => (c == 'T' || c == 't') && isTimeWithOffset rest
  | none => takeTime word = some []

/-! ## Words -/

/-- What a word stands for. -/
def wordValue? (word : List Char) : Option Value :=
  if word = "true".toList then some (.truth true)
  else if word = "false".toList then some (.truth false)
  else if isMoment word then some .moment
  else
    match fraction? word with
    | some x => some (.float x)
    | none => (wholeNumber? word).map .integer

/-- A scalar that is no text, from its first character on. -/
def scanWord : Scan Value := fun cs =>
  let word := cs.takeWhile isWordChar
  let rest := cs.dropWhile isWordChar
  match rest with
  | ' ' :: more =>
    if takeDate word = some [] && more.head?.any Char.isDigit then
      if isTimeWithOffset (more.takeWhile isWordChar) then
        some (.moment, more.dropWhile isWordChar)
      else none
    else (wordValue? word).map fun v => (v, rest)
  | _ => (wordValue? word).map fun v => (v, rest)

end StateHolders.Toml
