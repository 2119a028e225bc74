import StateHolders.Event

/-!
# Thresholds

A threshold is the least severe level that passes. In a filter it is spelled by a word or by a
number from zero, which lets nothing pass, to five.
-/

namespace StateHolders.Logging

/-- The least severe level that passes; `none` lets nothing pass. -/
abbrev Threshold := Option Level

/-- Whether a level passes. -/
def passes (threshold : Threshold) (level : Level) : Bool :=
  match threshold with
  | none => false
  | some least => least.severity ≤ level.severity

/-- The threshold that a number stands for. -/
def thresholdOfNumber? : Nat → Option Threshold
  | 0 => some none
  | 1 => some (some .error)
  | 2 => some (some .warn)
  | 3 => some (some .info)
  | 4 => some (some .debug)
  | 5 => some (some .trace)
  | _ => none

/-- A number in a directive: decimal digits, before which a plus may stand. -/
def number? (cs : List Char) : Option Nat :=
  let digits := match cs with
    | '+' :: rest => rest
    | rest => rest
  if digits.isEmpty || !digits.all Char.isDigit then none
  else some (digits.foldl (fun n c => n * 10 + (c.toNat - '0'.toNat)) 0)

/-- The threshold that a word or a number stands for; ASCII case does not matter. -/
def threshold? (cs : List Char) : Option Threshold :=
  match (number? cs).bind thresholdOfNumber? with
  | some t => some t
  | none =>
    match String.ofList (cs.map Char.toLower) with
    | "error" => some (some .error)
    | "warn" => some (some .warn)
    | "info" => some (some .info)
    | "debug" => some (some .debug)
    | "trace" => some (some .trace)
    | "off" => some none
    | _ => none

end StateHolders.Logging
