import StateHolders.Event
import StateHolders.Registry.Basic
import StateHolders.Registry.Catalogue

/-!
# Building a registry

A builder collects entries: bound one by one, or taken from the holders on offer. What it makes is
a registry of these entries in their order, unless a name is bound twice; then the error names the
first entry that repeats the name of an earlier one.
-/

namespace StateHolders

/-- The entries of a registry to be built. -/
structure Builder where
  /-- The entries, in the order of binding. -/
  entries : List Entry

/-- A holder on offer was found. -/
def discoveredEvent (e : Entry) : Event :=
  ⟨.debug, .discovery, "Discovered registered state holder", [("holder", .shown e.name)]⟩

namespace Builder

/-- No entries yet. -/
def empty : Builder := ⟨[]⟩

/-- The number of entries. -/
def size (b : Builder) : Nat := b.entries.length

/-- Whether there are no entries. -/
def isEmpty (b : Builder) : Bool := b.entries.isEmpty

/-- Binds a supplier, which others may use as well, to a descriptor, with a description. -/
def bindSupplier (b : Builder) (d : Descriptor) (description : String) (s : Supplier) : Builder :=
  ⟨b.entries ++ [⟨d, description, s⟩]⟩

/-- Binds a supplier of its own to a descriptor, with a description. -/
def bindDescribed (b : Builder) (d : Descriptor) (description : String) (s : Supplier) : Builder :=
  b.bindSupplier d description s

/-- Binds a supplier of its own to a descriptor. -/
def bind (b : Builder) (d : Descriptor) (s : Supplier) : Builder := b.bindDescribed d "" s

/-- Binds what an entry holds. -/
def bindEntry (b : Builder) (e : Entry) : Builder :=
  b.bindSupplier e.descriptor e.description e.supplier

/-- The holders on offer that are kept, by name. -/
def kept (keep : Entry → Bool) (c : Catalogue) : List Entry := c.sorted.filter keep

/-- Adds the holders on offer that are kept, by name. -/
def discoverFiltered (b : Builder) (keep : Entry → Bool) (c : Catalogue) : Builder :=
  (kept keep c).foldl bindEntry b

/-- What is reported when holders on offer are added. -/
def discoveryEvents (keep : Entry → Bool) (c : Catalogue) : List Event :=
  (kept keep c).map discoveredEvent

/-- Adds the holders on offer, by name. -/
def discover (b : Builder) (c : Catalogue) : Builder := b.discoverFiltered (fun _ => true) c

/-! ## Operations -/

/-- One step of filling a builder. -/
inductive Operation where
  /-- Binds a supplier of its own to a descriptor. -/
  | bind (d : Descriptor) (s : Supplier)
  /-- Binds a supplier of its own to a descriptor, with a description. -/
  | bindDescribed (d : Descriptor) (description : String) (s : Supplier)
  /-- Binds a supplier, which others may use as well, to a descriptor, with a description. -/
  | bindSupplier (d : Descriptor) (description : String) (s : Supplier)
  /-- Binds what an entry holds. -/
  | bindEntry (e : Entry)
  /-- Adds the holders on offer. -/
  | discover
  /-- Adds the holders on offer that are kept. -/
  | discoverFiltered (keep : Entry → Bool)

/-- The builder after a step. -/
def apply (c : Catalogue) (b : Builder) : Operation → Builder
  | .bind d s => b.bind d s
  | .bindDescribed d description s => b.bindDescribed d description s
  | .bindSupplier d description s => b.bindSupplier d description s
  | .bindEntry e => b.bindEntry e
  | .discover => b.discover c
  | .discoverFiltered keep => b.discoverFiltered keep c

/-- The entries that a step adds. -/
def Operation.contribution (c : Catalogue) : Operation → List Entry
  | .bind d s => [⟨d, "", s⟩]
  | .bindDescribed d description s => [⟨d, description, s⟩]
  | .bindSupplier d description s => [⟨d, description, s⟩]
  | .bindEntry e => [e]
  | .discover => c.sorted
  | .discoverFiltered keep => kept keep c

@[simp] theorem entries_empty : empty.entries = [] := rfl

@[simp] theorem entries_bindSupplier (b : Builder) (d : Descriptor) (description : String)
    (s : Supplier) :
    (b.bindSupplier d description s).entries = b.entries ++ [⟨d, description, s⟩] := rfl

@[simp] theorem entries_bindEntry (b : Builder) (e : Entry) :
    (b.bindEntry e).entries = b.entries ++ [e] := rfl

/-- Entries that are bound one after the other stand at the end, in their order. -/
@[simp] theorem entries_foldl_bindEntry (b : Builder) (es : List Entry) :
    (es.foldl bindEntry b).entries = b.entries ++ es := by
  induction es generalizing b with
  | nil => simp
  | cons e rest ih => rw [List.foldl_cons, ih, entries_bindEntry, List.append_assoc]; rfl

@[simp] theorem entries_discoverFiltered (b : Builder) (keep : Entry → Bool) (c : Catalogue) :
    (b.discoverFiltered keep c).entries = b.entries ++ kept keep c :=
  entries_foldl_bindEntry b _

/-- Unfiltered discovery adds every holder on offer. -/
@[simp] theorem entries_discover (b : Builder) (c : Catalogue) :
    (b.discover c).entries = b.entries ++ c.sorted := by
  rw [discover, entries_discoverFiltered, kept, List.filter_eq_self.mpr fun _ _ => rfl]

/-- A step adds its contribution at the end. -/
theorem entries_apply (c : Catalogue) (b : Builder) (o : Operation) :
    (b.apply c o).entries = b.entries ++ o.contribution c := by
  cases o with
  | discover => exact entries_discover b c
  | discoverFiltered keep => exact entries_discoverFiltered b keep c
  | _ => rfl

/-- The builder after several steps. -/
def applyAll (c : Catalogue) (b : Builder) (steps : List Operation) : Builder :=
  steps.foldl (apply c) b

/-- Several steps add their contributions at the end, in the order of the steps. -/
theorem entries_applyAll (c : Catalogue) (b : Builder) (steps : List Operation) :
    (b.applyAll c steps).entries = b.entries ++ steps.flatMap (Operation.contribution c) := by
  induction steps generalizing b with
  | nil => simp [applyAll]
  | cons o rest ih =>
    have h := ih (b.apply c o)
    rw [applyAll] at h ⊢
    rw [List.foldl_cons, h, entries_apply, List.flatMap_cons, List.append_assoc]

/-! ## Registries -/

/-- The index of entries that begin at a position, over the index of those before. -/
def indexFrom (position : Nat) (index : Index) : List Entry → Except Error Index
  | [] => .ok index
  | e :: rest =>
    if index.contains e.name then .error (.duplicateBinding e.name)
    else indexFrom (position + 1) (index.insert e.name position) rest

/-- The registry of the entries. -/
def build (b : Builder) : Except Error Registry :=
  match indexFrom 0 .empty b.entries with
  | .error e => .error e
  | .ok index => .ok ⟨b.entries, index⟩

end Builder

end StateHolders
