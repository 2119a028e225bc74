import StateHolders.Text.Utf8

/-!
# Paths

A path is a byte string; slashes divide it into names. An empty name and the name `.` stay where
they are, and `..` leads to the directory above. A path that begins with a slash is absolute.
-/

namespace StateHolders

/-- A name of a file or directory. -/
abbrev Name := List UInt8

/-- A path to a file or directory. -/
abbrev Path := List UInt8

/-- A place among the files: the names on the way from the root. -/
abbrev Location := List Name

namespace Path

/-- The byte that divides names. -/
def slash : UInt8 := 47

/-- The name of the directory itself. -/
def here : Name := [46]

/-- The name of the directory above. -/
def above : Name := [46, 46]

/-- The path that a text spells. -/
def ofText (s : String) : Path := Text.utf8 s

/-- The parts between slashes. -/
def segments : Path → List Name
  | [] => [[]]
  | b :: rest =>
    if b == slash then [] :: segments rest
    else
      match segments rest with
      | s :: more => (b :: s) :: more
      | [] => [[b]]

/-- Whether the path begins at the root. -/
def isAbsolute (p : Path) : Bool := p.head? == some slash

/-- The names on the way, without those that stay in place. A relative path keeps a `.` at its
beginning. -/
def steps (p : Path) : List Name :=
  let moving := p.segments.filter fun s => s != [] && s != here
  if p.segments.head? == some here then here :: moving else moving

/-- The number of parts of a path, the root being one. -/
def size (p : Path) : Nat := p.steps.length + (if p.isAbsolute then 1 else 0)

/-- The path `p` as seen from the directory `base`. -/
def join (base p : Path) : Path :=
  if p.isAbsolute || base.isEmpty then p
  else if base.getLast? == some slash then base ++ p
  else base ++ [slash] ++ p

/-- Names with slashes between them. -/
def ofNames : List Name → Path
  | [] => []
  | [n] => n
  | n :: rest => n ++ [slash] ++ ofNames rest

/-- The absolute path to a place. -/
def ofLocation (l : Location) : Path := slash :: ofNames l

/-- The way from the place `base` to the names `l` from the root. -/
def wayFrom : (base l : Location) → List Name
  | b :: base, n :: l =>
    if b == n then wayFrom base l else List.replicate (base.length + 1) above ++ n :: l
  | [], l => l
  | base, [] => List.replicate base.length above

/-- An absolute path as diagnostics show it at a place: the way from there, if it has fewer
parts. -/
def shownFrom (base : Option Location) (p : Path) : String :=
  match base with
  | some l =>
    let way := wayFrom l p.steps
    if way.length < p.size then Text.shownBytes (ofNames way) else Text.shownBytes p
  | none => Text.shownBytes p

/-- The last name, if the path ends in one. -/
def fileName? (p : Path) : Option Name :=
  match p.steps.getLast? with
  | some n => if n == above || n == here then none else some n
  | none => none

/-- The last name without what follows its last point, unless the point begins it. -/
def stem? (p : Path) : Option Name :=
  p.fileName?.map fun n =>
    let point : UInt8 := 46
    if !n.contains point then n
    else
      let stem := ((n.reverse.dropWhile (· != point)).drop 1).reverse
      if stem.isEmpty then n else stem

/-- Drops the names at the end that stay in place. -/
def dropIdle (names : List Name) : List Name :=
  (names.reverse.dropWhile fun n => n == [] || n == here).reverse

/-- The names at the beginning of a path that are kept in any case, and the others: a `.`, and the
empty name before the root. -/
def splitHead (p : Path) : List Name × List Name :=
  match p.segments with
  | first :: rest =>
    if first == here || p.isAbsolute then ([first], rest) else ([], first :: rest)
  | [] => ([], [])

/-- The path without its last part, if it has one, as it is written; only what stays in place
around that part goes with it. -/
def parent? (p : Path) : Option Path :=
  if p.steps.isEmpty then none
  else
    let (first, rest) := p.splitHead
    let moving := dropIdle rest
    if moving.isEmpty then some []
    else
      let way := dropIdle moving.dropLast
      some (if p.isAbsolute then slash :: ofNames way else ofNames (first ++ way))

end Path

end StateHolders
