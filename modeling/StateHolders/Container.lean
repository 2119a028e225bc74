import StateHolders.Config
import StateHolders.Creation
import StateHolders.Registry.Builder

/-!
# Containers

A container is assembled from modules, each of which contributes entries, and, if the
configuration asks for it, from the holders on offer that are not disabled. The modules come
first, so that their entries precede those on offer.
-/

namespace StateHolders

/-- A named contribution of entries. -/
structure Module where
  /-- The name of the module. -/
  name : String
  /-- The entries that it contributes, in order. -/
  bindings : List Entry

/-- A configuration with the registry that it leads to. -/
structure Container where
  /-- The configuration. -/
  config : Config
  /-- The registry. -/
  registry : Registry

namespace Container

/-- A module has contributed its entries. -/
def appliedEvent (m : Module) (bindings : Nat) : Event :=
  ⟨.info, .assembly, "Applied holder module",
    [("module", .quoted m.name), ("bindings", .count bindings)]⟩

/-- A disabled name is not on offer. -/
def unknownDisabledEvent (name : String) : Event :=
  ⟨.warn, .assembly, "Disabled state holder is not registered", [("holder", .shown name)]⟩

/-- Nothing is bound. -/
def emptyEvent : Event :=
  ⟨.warn, .assembly, "Holder registry is empty; every state holder request will fail", []⟩

/-- The container is complete. -/
def builtEvent (holders : Nat) : Event :=
  ⟨.info, .assembly, "Built holder container", [("holders", .count holders)]⟩

/-- Adds the entries of a module. -/
def applyModule (b : Builder) (m : Module) : Builder := m.bindings.foldl Builder.bindEntry b

/-- Adds the entries of the modules, and reports how many each of them contributed. -/
def applyModules (b : Builder) : List Module → Builder × List Event
  | [] => (b, [])
  | m :: rest =>
    let after := applyModule b m
    let applied := applyModules after rest
    (applied.1, appliedEvent m (after.size - b.size) :: applied.2)

/-- The warnings about disabled names that are not on offer. -/
def unknownDisabled (catalogue : Catalogue) (config : Config) : List Event :=
  (config.registry.disabled.filter fun name => !catalogue.offersName name).map unknownDisabledEvent

/-- Whether the configuration lets a holder on offer be registered. -/
def keeps (config : Config) (e : Entry) : Bool := !config.registry.isDisabled e.name

/-- Adds the holders on offer if the configuration asks for it. -/
def applyDiscovery (catalogue : Catalogue) (config : Config) (b : Builder) :
    Builder × List Event :=
  if config.registry.discover then
    (b.discoverFiltered (keeps config) catalogue,
      unknownDisabled catalogue config ++ Builder.discoveryEvents (keeps config) catalogue)
  else (b, [])

/-- What is reported of a complete registry. -/
def completionEvents (r : Registry) : List Event :=
  (if r.isEmpty then [emptyEvent] else []) ++ [builtEvent r.size]

/-- The entries of the modules and of the holders on offer, and what was reported about them. -/
def collect (catalogue : Catalogue) (config : Config) (modules : List Module) :
    Builder × List Event :=
  let applied := applyModules .empty modules
  let found := applyDiscovery catalogue config applied.1
  (found.1, applied.2 ++ found.2)

/-- Assembles a container, and reports what was done up to its completion or failure. -/
def build (catalogue : Catalogue) (config : Config) (modules : List Module) :
    Except Error Container × List Event :=
  let collected := collect catalogue config modules
  match collected.1.build with
  | .error e => (.error e, collected.2)
  | .ok r => (.ok ⟨config, r⟩, collected.2 ++ completionEvents r)

/-- How diagnostics show a container. -/
def shape (c : Container) : Text.Shape :=
  .record "HolderContainer"
    [.labelled "config" c.config.shape, .labelled "registry" c.registry.shape,
      .labelled "factory"
        (.record "RegistryHolderFactory" [.labelled "registry" c.registry.shape] true)] true

end Container

end StateHolders
