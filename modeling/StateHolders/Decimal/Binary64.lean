/-!
# Double-precision numbers as decimals

A finite double is a natural mantissa times a power of two. Both directions are exact: a decimal
is rounded to the nearest double, a tie going to the even mantissa, and a double is written with
the fewest digits that round back to it, nearest to it among those, and of two that are equally
near with those further from zero. All arithmetic is on natural numbers, so nothing here depends
on the machine's floating point.
-/

namespace StateHolders.Decimal

/-- A double-precision number. -/
inductive Binary64 where
  /-- Not a number. -/
  | nan
  /-- One of the two infinities. -/
  | infinite (negative : Bool)
  /-- The number `mantissa * 2 ^ exponent`, or its negative; zero has both signs. -/
  | finite (negative : Bool) (mantissa : Nat) (exponent : Int)
deriving DecidableEq, Repr

/-- The quotient rounded to the nearest natural number, a tie to the even one. -/
def roundHalfEven (num den : Nat) : Nat :=
  let floor := num / den
  let rest := num % den
  if 2 * rest < den then floor
  else if den < 2 * rest then floor + 1
  else if floor % 2 = 0 then floor else floor + 1

/-- The fraction `num / den * base ^ exponent` as numerator and denominator. -/
def scaled (base num den : Nat) (exponent : Int) : Nat × Nat :=
  if 0 ≤ exponent then (num * Nat.pow base exponent.toNat, den)
  else (num, den * Nat.pow base (-exponent).toNat)

/-- The least exponent of a double. -/
def leastExponent : Int := -1074

/-- The least mantissa of fifty-three bits. -/
def leastFull : Nat := 0x10000000000000

/-- The exponent at which the mantissa of `num / den` has fifty-three bits, or the least one. -/
def exponentOf (num den : Nat) : Int :=
  let guess := max ((num.log2 : Int) - den.log2 - 53) leastExponent
  let (n, d) := scaled 2 num den (-guess)
  if 2 * leastFull ≤ n / d then guess + 1 else guess

namespace Binary64

/-- The double nearest to `num / den`; from `2 ^ 1024` on it is infinite. -/
def ofFraction (negative : Bool) (num den : Nat) : Binary64 :=
  let e := exponentOf num den
  let (n, d) := scaled 2 num den (-e)
  let m := roundHalfEven n d
  let (m, e) := if m = 2 * leastFull then (leastFull, e + 1) else (m, e)
  if m = 0 then .finite negative 0 0
  else if 971 < e then .infinite negative
  else .finite negative m e

/-- The double nearest to `digits * 10 ^ exponent`. The far ends are decided by the number of
digits, so that no power is computed for them. -/
def ofDecimal (negative : Bool) (digits : Nat) (exponent : Int) : Binary64 :=
  if digits = 0 then .finite negative 0 0
  else
    let width : Int := (Nat.toDigits 10 digits).length + exponent
    if 400 < width then .infinite negative
    else if width < -400 then .finite negative 0 0
    else
      let (n, d) := scaled 10 digits 1 exponent
      ofFraction negative n d

end Binary64

/-- The closed or open interval of fractions that round to one double, over one denominator. -/
structure Neighbourhood where
  /-- The number itself. -/
  value : Nat
  /-- The lower end. -/
  lower : Nat
  /-- The upper end. -/
  upper : Nat
  /-- The common denominator. -/
  denominator : Nat
  /-- Whether the ends round to the number too, which they do to an even mantissa. -/
  closed : Bool

/-- The interval around `mantissa * 2 ^ exponent`. Below a power of two the neighbours are twice as
dense, except at the least exponent. -/
def Neighbourhood.of (mantissa : Nat) (exponent : Int) : Neighbourhood :=
  let below := if mantissa = leastFull ∧ leastExponent < exponent then 1 else 2
  let (unit, den) := scaled 2 1 4 exponent
  { value := 4 * mantissa * unit
    lower := (4 * mantissa - below) * unit
    upper := (4 * mantissa + 2) * unit
    denominator := den
    closed := mantissa % 2 == 0 }

/-- Whether `n * 10 ^ place` lies in the interval. -/
def Neighbourhood.holds (v : Neighbourhood) (n : Nat) (place : Int) : Bool :=
  let (a, b) := scaled 10 (n * v.denominator) 1 place
  if v.closed then v.lower * b ≤ a && a ≤ v.upper * b else v.lower * b < a && a < v.upper * b

/-- The multiple of `10 ^ place` in the interval that is nearest to the number, if one of the two
multiples beside it lies there; of two that are equally near, the larger. -/
def Neighbourhood.nearest? (v : Neighbourhood) (place : Int) : Option Nat :=
  let (a, b) := scaled 10 v.value v.denominator (-place)
  let floor := a / b
  let up := b ≤ 2 * (a % b)
  let order := if up then [floor + 1, floor] else [floor, floor + 1]
  order.find? fun n => n != 0 && v.holds n place

/-- The first of the places that has a multiple in the interval, with that multiple. -/
def Neighbourhood.firstPlace (v : Neighbourhood) : List Int → Option (Nat × Int)
  | [] => none
  | place :: rest =>
    match v.nearest? place with
    | some n => some (n, place)
    | none => v.firstPlace rest

/-- Drops the zeros at the end of the digits and raises the place accordingly. -/
def dropZeros : Nat → Nat → Int → Nat × Int
  | 0, n, place => (n, place)
  | fuel + 1, n, place =>
    if n % 10 = 0 ∧ n ≠ 0 then dropZeros fuel (n / 10) (place + 1) else (n, place)

/-- The digits `n` and the place `p` such that `n * 10 ^ p` has the fewest digits of all decimals
that round to `mantissa * 2 ^ exponent`. -/
def shortest (mantissa : Nat) (exponent : Int) : Nat × Int :=
  let v := Neighbourhood.of mantissa exponent
  let top : Int :=
    if v.denominator ≤ v.value then (Nat.toDigits 10 (v.value / v.denominator)).length
    else 1 - (Nat.toDigits 10 (v.denominator / v.value)).length
  let places : List Int := (List.range 20).map fun k : Nat => top + 1 - (k : Int)
  match v.firstPlace places with
  | some (n, place) => dropZeros 30 n place
  | none => (mantissa, 0)

/-- The digits of `n * 10 ^ place` without an exponent. -/
def positional (n : Nat) (place : Int) : String :=
  let digits := Nat.toDigits 10 n
  if 0 ≤ place then String.ofList (digits ++ List.replicate place.toNat '0')
  else
    let fraction := (-place).toNat
    let padded := List.replicate (fraction + 1 - digits.length) '0' ++ digits
    let whole := padded.length - fraction
    String.ofList (padded.take whole ++ '.' :: padded.drop whole)

/-- A double is shown by its shortest digits, never with an exponent; a whole number has no point,
and zero keeps its sign. -/
def Binary64.show : Binary64 → String
  | .nan => "NaN"
  | .infinite negative => if negative then "-inf" else "inf"
  | .finite negative mantissa exponent =>
    let sign := if negative then "-" else ""
    if mantissa = 0 then sign ++ "0"
    else
      let (n, place) := shortest mantissa exponent
      sign ++ positional n place

end StateHolders.Decimal
