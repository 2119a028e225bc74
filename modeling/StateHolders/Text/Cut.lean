/-!
# Cuts by bytes

A text can be cut after a number of bytes of its encoding, but only between two characters. A
number that falls inside a character, or beyond the end, cuts nothing.
-/

namespace StateHolders.Text

/-- The number of bytes that encode some characters. -/
def byteLength : List Char → Nat
  | [] => 0
  | c :: cs => c.utf8Size + byteLength cs

/-- The characters of the first so many bytes, and the characters after them. -/
def cutAt? : Nat → List Char → Option (List Char × List Char)
  | 0, cs => some ([], cs)
  | _ + 1, [] => none
  | n + 1, c :: cs =>
    if c.utf8Size ≤ n + 1 then
      (cutAt? (n + 1 - c.utf8Size) cs).map fun (first, rest) => (c :: first, rest)
    else none

/-- The characters between two numbers of bytes. -/
def slice? (start stop : Nat) (cs : List Char) : Option (List Char) :=
  (cutAt? start cs).bind fun (_, rest) => (cutAt? (stop - start) rest).map Prod.fst

/-- Why a text that is read by cutting parts out of it is not read. -/
inductive Fault where
  /-- It does not have the form that is asked for. -/
  | malformed
  /-- A cut falls inside a character, after which nothing can be read any more. -/
  | torn
deriving DecidableEq, Repr

/-- The characters between two numbers of bytes, or the fault that there is no such cut. -/
def slice (start stop : Nat) (cs : List Char) : Except Fault (List Char) :=
  match slice? start stop cs with
  | some part => .ok part
  | none => .error .torn

end StateHolders.Text
