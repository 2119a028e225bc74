import StateHolders.Dictionary
import StateHolders.Failure
import StateHolders.Files.Path

/-!
# The world outside

What a run can see of its surroundings: the files, the working directory, the environment variables
in their order, and the home directory of the account. Paths are followed name by name through
directories that exist, so that a missing directory, or a file in the place of one, is told apart
from a missing file.

A directory that was removed while a run stands in it is still a directory, and the way up from it
stays open, but it has no place among the files, and nothing can be found or made in it.
-/

namespace StateHolders

/-- What a place among the files holds. -/
inductive Node where
  /-- A file with its bytes. -/
  | file (content : List UInt8)
  /-- A directory. -/
  | directory
deriving DecidableEq, Repr

/-- A directory: one that has a place, or one some steps below that place which was removed. -/
structure Standing where
  /-- The place of the nearest directory on the way up that is still there. -/
  location : Location
  /-- The number of directories below it that were removed. -/
  removed : Nat
deriving DecidableEq, Repr

namespace Standing

/-- The root. -/
def root : Standing := ⟨[], 0⟩

/-- The place, if the directory is still there. -/
def place? (s : Standing) : Option Location := if s.removed = 0 then some s.location else none

/-- Where a name leads from a directory. No name but those of itself and of the directory above
leads anywhere from one that was removed. -/
def enter? (s : Standing) (n : Name) : Option Standing :=
  if n = [] ∨ n = Path.here then some s
  else if n = Path.above then
    match s.removed with
    | 0 => some ⟨s.location.dropLast, 0⟩
    | steps + 1 => some ⟨s.location, steps⟩
  else if s.removed = 0 then some ⟨s.location ++ [n], 0⟩
  else none

end Standing

/-- The surroundings of a run. -/
structure World where
  /-- What each place holds; the root is always a directory. -/
  nodes : List (Location × Node)
  /-- The working directory. -/
  directory : Standing
  /-- The environment variables. -/
  environment : List (String × String)
  /-- The home directory that the account of the user has, if it has one. -/
  accountHome : Option Path

namespace World

/-- What a place holds. -/
def at? (w : World) (l : Location) : Option Node :=
  if l = [] then some .directory else Dictionary.get? l w.nodes

/-- What stands where a name or a path leads. -/
def holds? (w : World) (s : Standing) : Option Node :=
  match s.place? with
  | some l => w.at? l
  | none => some .directory

/-- The world with a place filled. -/
def put (w : World) (l : Location) (node : Node) : World :=
  { w with nodes := Dictionary.set l node w.nodes }

/-- The world with a place empty. A working directory at that place goes on as a removed one. -/
def clear (w : World) (l : Location) : World :=
  { w with
    nodes := Dictionary.erase l w.nodes
    directory :=
      if w.directory.location = l then ⟨l.dropLast, w.directory.removed + 1⟩ else w.directory }

/-- The value of an environment variable. -/
def valueOf? (w : World) (name : String) : Option String := Dictionary.get? name w.environment

/-- The most bytes that a name can have. -/
def maxName : Nat := 255

/-- The number of bytes that no path can reach. -/
def maxPath : Nat := 4096

/-- Where a name leads from a directory, whether or not anything is there. -/
def enter (s : Standing) (n : Name) : Except Failure Standing :=
  match s.enter? n with
  | none => .error .notFound
  | some s => if maxName < n.length then .error .nameTooLong else .ok s

/-- Follows names. Everything that is left on the way has to be a directory. -/
def follow (w : World) (s : Standing) : List Name → Except Failure Standing
  | [] => .ok s
  | n :: rest =>
    match w.holds? s with
    | some .directory =>
      match enter s n with
      | .error f => .error f
      | .ok s => w.follow s rest
    | some (.file _) => .error .notADirectory
    | none => .error .notFound

/-- Where a path starts. -/
def start (w : World) (p : Path) : Except Failure Standing :=
  if p = [] then .error .notFound
  else if p.contains 0 then .error .nulInPath
  else if maxPath ≤ p.length then .error .nameTooLong
  else if p.isAbsolute then .ok .root
  else .ok w.directory

/-- Where a path ends, and what is there. -/
def locate (w : World) (p : Path) : Except Failure (Standing × Node) :=
  match w.start p with
  | .error f => .error f
  | .ok s =>
    match w.follow s p.segments with
    | .error f => .error f
    | .ok s =>
      match w.holds? s with
      | some node => .ok (s, node)
      | none => .error .notFound

/-- What a path leads to. -/
def node (w : World) (p : Path) : Except Failure Node := (w.locate p).map Prod.snd

/-- Whether a path leads to anything. -/
def pathExists (w : World) (p : Path) : Bool := (w.node p).isOk

/-- The bytes of the file that a path leads to. -/
def content? (w : World) (p : Path) : Option (List UInt8) :=
  match w.node p with
  | .ok (.file content) => some content
  | _ => none

/-- The places on the way that names lead from the root, the first and the last among them. -/
def places (s : Standing) : List Name → List Location
  | [] => s.place?.toList
  | n :: rest =>
    s.place?.toList ++
      match s.enter? n with
      | none => []
      | some s => places s rest

/-- The parts of a path without empty ones at its end. -/
def dropEmptyEnd (segments : List Name) : List Name :=
  (segments.reverse.dropWhile List.isEmpty).reverse

/-- The place of a file of some name in a directory. -/
def fileIn (w : World) (s : Standing) (n : Name) : Except Failure Location :=
  match enter s n with
  | .error f => .error f
  | .ok s =>
    match w.at? s.location with
    | some .directory => .error .isADirectory
    | _ => .ok s.location

/-- The place at which a path puts a file. The directory has to exist; a path that ends in a
slash, in `.` or in `..`, and one that leads to a directory, name no file. -/
def target (w : World) (p : Path) : Except Failure Location :=
  match w.start p with
  | .error f => .error f
  | .ok s =>
    let parts := dropEmptyEnd p.segments
    match parts.getLast? with
    | none => .error .isADirectory
    | some last =>
      match w.follow s (parts.dropLast ++ [Path.here]) with
      | .error f => .error f
      | .ok s =>
        if last = Path.here ∨ last = Path.above ∨ parts.length < p.segments.length then
          .error .isADirectory
        else w.fileIn s last

/-- Writes a file, which is made or replaced, and says what became of it. -/
def write (w : World) (p : Path) (content : List UInt8) : World × Except Failure Unit :=
  match w.target p with
  | .error f => (w, .error f)
  | .ok l => (w.put l (.file content), .ok ())

/-- Makes the directories on the way that are missing. -/
def makeDirectories (w : World) (s : Standing) :
    List Name → Except Failure (World × Standing)
  | [] => .ok (w, s)
  | n :: rest =>
    match enter s n with
    | .error f => .error f
    | .ok next =>
      match w.holds? next with
      | some .directory => w.makeDirectories next rest
      | some (.file _) => .error .notADirectory
      | none => (w.put next.location .directory).makeDirectories next rest

/-- Removes the file that a path leads to, if it leads to one. -/
def removeFile? (w : World) (p : Path) : Option World :=
  match w.locate p with
  | .ok (s, .file _) => some (w.clear s.location)
  | _ => none

/-- Whether a place lies below another. -/
def isBelow (l above : Location) : Bool := above.length < l.length && above.isPrefixOf l

/-- Removes the directory that a path leads to. It has to be empty, and the path has to end in its
name. -/
def removeDirectory? (w : World) (p : Path) : Option World :=
  let last := (dropEmptyEnd p.segments).getLast?
  if last.isNone ∨ last = some Path.here ∨ last = some Path.above then none
  else
    match w.locate p with
    | .ok (s, .directory) =>
      if w.nodes.any fun (l, _) => isBelow l s.location then none else some (w.clear s.location)
    | _ => none

/-- Makes the directory that a path leads to the working directory. -/
def changeDirectory? (w : World) (p : Path) : Option World :=
  match w.locate p with
  | .ok (s, .directory) => some { w with directory := s }
  | _ => none

end World

end StateHolders
