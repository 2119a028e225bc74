import StateHolders.Holder

/-!
# Entries

An entry binds a supplier to a descriptor. Entries stand in registries, and the holders on offer
are a list of entries, too.
-/

namespace StateHolders

/-- A supplier bound to a descriptor. -/
structure Entry where
  /-- What the supplier makes. -/
  descriptor : Descriptor
  /-- What the holder is for. -/
  description : String
  /-- Makes the holders. -/
  supplier : Supplier

namespace Entry

/-- The name under which the supplier is bound. -/
def name (e : Entry) : String := e.descriptor.name

/-- How diagnostics show an entry. The supplier has no shape. -/
def shape (e : Entry) : Text.Shape :=
  .record "RegistryEntry"
    [.labelled "descriptor" (.text e.name), .labelled "description" (.text e.description)] false

end Entry

end StateHolders
