import StateHolders.Registry.Entry
import StateHolders.Registry.Index

/-!
# Registries

A registry holds entries in the order in which they were bound, no name twice, and an index by
name. A request is served by the entry of its own name, wherever it stands, or else by the first
entry whose descriptor it satisfies.
-/

namespace StateHolders

/-- How an entry matches a request. -/
inductive Match where
  /-- It has the name that was asked for. -/
  | exact
  /-- What was asked for refines it. -/
  | broader
deriving DecidableEq, Repr

/-- The word for a match. -/
def Match.word : Match → String
  | .exact => "Exact"
  | .broader => "Broader"

/-- Entries and their index. -/
structure Registry where
  /-- The entries, in the order of binding. -/
  entries : List Entry
  /-- The positions of their names. -/
  index : Index

namespace Registry

/-- The registry without entries. -/
def empty : Registry := ⟨[], .empty⟩

/-- The number of entries. -/
def size (r : Registry) : Nat := r.entries.length

/-- Whether there are no entries. -/
def isEmpty (r : Registry) : Bool := r.entries.isEmpty

/-- Whether a descriptor of that name is bound. -/
def contains (r : Registry) (d : Descriptor) : Bool := r.index.contains d.name

/-- The entry of the descriptor's own name. -/
def findExact (r : Registry) (d : Descriptor) : Option Entry :=
  (r.index.get? d.name).bind fun position => r.entries[position]?

/-- The first entry that the descriptor satisfies. -/
def findBroader (r : Registry) (d : Descriptor) : Option Entry :=
  r.entries.find? fun e => d.satisfies e.descriptor

/-- The entry that serves a request, and how it matches. -/
def lookup (r : Registry) (d : Descriptor) : Option (Entry × Match) :=
  match r.findExact d with
  | some e => some (e, .exact)
  | none => (r.findBroader d).map fun e => (e, .broader)

/-- The bound descriptor of that name. -/
def descriptorNamed (r : Registry) (name : String) : Option Descriptor :=
  (r.entries.map Entry.descriptor).find? fun d => d.name == name

/-- How diagnostics show a registry: the names that are bound. -/
def shape (r : Registry) : Text.Shape := .list (r.entries.map fun e => .text e.name)

end Registry

end StateHolders
