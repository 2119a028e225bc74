import StateHolders.Failure
import StateHolders.Text.Utf8

/-!
# Outputs

An output takes bytes, all of them or only so many. What it has taken is always the beginning of
what was written to it.
-/

namespace StateHolders.Command

/-- Takes what is written. -/
structure Output where
  /-- The bytes that were taken. -/
  taken : List UInt8
  /-- The number of bytes that can be taken, if it is limited. -/
  limit : Option Nat
  /-- What is reported when no more can be taken. -/
  full : Failure
deriving DecidableEq, Repr

namespace Output

/-- An output without limit. -/
def unlimited : Output := ⟨[], none, .wroteNothing⟩

/-- An output that takes so many bytes. -/
def limited (limit : Nat) (full : Failure) : Output := ⟨[], some limit, full⟩

/-- How many of some bytes are taken. -/
def room (o : Output) (bytes : List UInt8) : Nat :=
  match o.limit with
  | none => bytes.length
  | some n => min bytes.length (n - o.taken.length)

/-- Writes bytes: the output after that, and its failure if it could not take them all. -/
def write (o : Output) (bytes : List UInt8) : Output × Option Failure :=
  let n := o.room bytes
  ({ o with taken := o.taken ++ bytes.take n }, if n < bytes.length then some o.full else none)

/-- Writes lines, each with a line feed, up to the first failure. -/
def writeLines (o : Output) : List String → Output × Option Failure
  | [] => (o, none)
  | l :: rest =>
    let written := o.write (Text.utf8 (l ++ "\n"))
    match written.2 with
    | some f => (written.1, some f)
    | none => writeLines written.1 rest

/-- An output without limit takes what is written. -/
theorem write_of_limit_eq_none {o : Output} (h : o.limit = none) (bytes : List UInt8) :
    o.write bytes = ({ o with taken := o.taken ++ bytes }, none) := by
  simp [write, room, h]

/-- An output without limit takes all lines, each with its line feed. -/
theorem writeLines_of_limit_eq_none {o : Output} (h : o.limit = none) (lines : List String) :
    o.writeLines lines =
      ({ o with taken := o.taken ++ Text.utf8 (String.join (lines.map (· ++ "\n"))) }, none) := by
  induction lines generalizing o with
  | nil => simp [writeLines, Text.utf8]
  | cons l rest ih =>
    have hrest := ih (o := { o with taken := o.taken ++ Text.utf8 (l ++ "\n") }) h
    rw [writeLines, write_of_limit_eq_none h]
    dsimp only
    rw [hrest]
    simp only [List.map_cons, String.join_cons, Text.utf8_append, List.append_assoc]

/-- What was taken, as a text. -/
def text (o : Output) : String := Text.shownBytes o.taken

end Output

end StateHolders.Command
