import StateHolders.Container
import StateHolders.Proofs.Registry.Resolution

/-!
# What a container binds

A container binds the entries of its modules, one module after the other, and then, if the
configuration asks for discovery, the holders on offer that it does not disable, by name. It is
complete exactly if no two of these have one name. What the configuration disables concerns the
holders on offer only, never a module, and only as a set of names.
-/

namespace StateHolders.Container

variable {catalogue : Catalogue} {config : Config} {modules : List Module}

/-- The holders on offer that are bound, by name. -/
def discovered (catalogue : Catalogue) (config : Config) : List Entry :=
  if config.registry.discover then
    catalogue.sorted.filter fun e => e.name ∉ config.registry.disabled
  else []

/-- All that is bound, in the order of binding. -/
def bindings (catalogue : Catalogue) (config : Config) (modules : List Module) : List Entry :=
  modules.flatMap Module.bindings ++ discovered catalogue config

/-! ## Collecting the bindings -/

theorem entries_applyModule (b : Builder) (m : Module) :
    (applyModule b m).entries = b.entries ++ m.bindings :=
  Builder.entries_foldl_bindEntry b m.bindings

/-- The modules add their entries at the end, one module after the other. -/
theorem entries_applyModules (b : Builder) (modules : List Module) :
    (applyModules b modules).1.entries = b.entries ++ modules.flatMap Module.bindings := by
  induction modules generalizing b with
  | nil => simp [applyModules]
  | cons m rest ih =>
    rw [applyModules, ih, entries_applyModule, List.flatMap_cons, List.append_assoc]

theorem keeps_eq (config : Config) :
    keeps config = fun e => decide (e.name ∉ config.registry.disabled) := by
  funext e
  rw [keeps, RegistryConfig.isDisabled, List.contains_eq_mem, decide_not]

/-- Discovery adds the holders on offer that are not disabled, or nothing. -/
theorem entries_applyDiscovery (catalogue : Catalogue) (config : Config) (b : Builder) :
    (applyDiscovery catalogue config b).1.entries = b.entries ++ discovered catalogue config := by
  cases hd : config.registry.discover with
  | true =>
    simp only [applyDiscovery, discovered, hd, if_true]
    rw [Builder.entries_discoverFiltered, Builder.kept, keeps_eq]
  | false => simp [applyDiscovery, discovered, hd]

/-- What is collected are the bindings. -/
theorem entries_collect (catalogue : Catalogue) (config : Config) (modules : List Module) :
    (collect catalogue config modules).1.entries = bindings catalogue config modules := by
  rw [collect, entries_applyDiscovery, entries_applyModules, Builder.entries_empty,
    List.nil_append, bindings]

theorem mem_discovered_iff (e : Entry) :
    e ∈ discovered catalogue config ↔
      config.registry.discover = true ∧ e.name ∉ config.registry.disabled ∧
        e ∈ catalogue.offers := by
  cases hd : config.registry.discover with
  | true => simp [discovered, hd, catalogue.mem_sorted, and_comm]
  | false => simp [discovered, hd]

/-! ## Building -/

/-- A container holds its configuration and the registry of what was collected, and fails as the
building of that registry does. -/
theorem build_eq (catalogue : Catalogue) (config : Config) (modules : List Module) :
    (build catalogue config modules).1 =
      (collect catalogue config modules).1.build.map fun r => ⟨config, r⟩ := by
  rw [build]
  cases (collect catalogue config modules).1.build with
  | error e => rfl
  | ok r => rfl

/-- The registry depends on the configuration only through the holders that are discovered. -/
theorem map_registry_build (catalogue : Catalogue) (config : Config) (modules : List Module) :
    (build catalogue config modules).1.map Container.registry =
      (Builder.mk (bindings catalogue config modules)).build := by
  rw [build_eq, ← entries_collect]
  cases (collect catalogue config modules).1.build with
  | error e => rfl
  | ok r => rfl

theorem build_eq_ok_iff (container : Container) :
    (build catalogue config modules).1 = .ok container ↔
      container.config = config ∧
        (collect catalogue config modules).1.build = .ok container.registry := by
  obtain ⟨own, registry⟩ := container
  rw [build_eq]
  cases (collect catalogue config modules).1.build with
  | error e => simp [Except.map]
  | ok r => simp [Except.map, eq_comm]

theorem build_eq_error_iff (e : Error) :
    (build catalogue config modules).1 = .error e ↔
      (collect catalogue config modules).1.build = .error e := by
  rw [build_eq]
  cases (collect catalogue config modules).1.build with
  | error e => simp [Except.map]
  | ok r => simp [Except.map]

/-- The assembly succeeds exactly if no two bindings have one name. -/
theorem exists_build_eq_ok_iff :
    (∃ container, (build catalogue config modules).1 = .ok container) ↔
      ((bindings catalogue config modules).map Entry.name).Nodup := by
  rw [← entries_collect, ← Builder.exists_build_eq_ok_iff]
  constructor
  · rintro ⟨container, h⟩
    exact ⟨container.registry, ((build_eq_ok_iff container).mp h).2⟩
  · rintro ⟨r, h⟩
    exact ⟨⟨config, r⟩, (build_eq_ok_iff _).mpr ⟨rfl, h⟩⟩

/-- The registry of a container has the bindings, in their order. -/
theorem entries_of_build {container : Container}
    (h : (build catalogue config modules).1 = .ok container) :
    container.registry.entries = bindings catalogue config modules := by
  rw [Builder.entries_of_build ((build_eq_ok_iff container).mp h).2, entries_collect]

theorem sound_of_build {container : Container}
    (h : (build catalogue config modules).1 = .ok container) : container.registry.Sound :=
  Registry.sound_of_build ((build_eq_ok_iff container).mp h).2

/-- A name is bound if a module binds it, disabled or not, or if it is discovered. -/
theorem contains_iff_of_build {container : Container}
    (h : (build catalogue config modules).1 = .ok container) (d : Descriptor) :
    container.registry.contains d = true ↔
      (∃ m ∈ modules, ∃ e ∈ m.bindings, e.name = d.name) ∨
      (config.registry.discover = true ∧ d.name ∉ config.registry.disabled ∧
        ∃ e ∈ catalogue.offers, e.name = d.name) := by
  have hmem (e : Entry) : e ∈ container.registry.entries ↔
      (∃ m ∈ modules, e ∈ m.bindings) ∨ e ∈ discovered catalogue config := by
    rw [entries_of_build h, bindings, List.mem_append, List.mem_flatMap]
  rw [Registry.contains, (sound_of_build h).contains_index_iff]
  constructor
  · rintro ⟨e, he, hname⟩
    rcases (hmem e).mp he with ⟨m, hm, hb⟩ | hd
    · exact Or.inl ⟨m, hm, e, hb, hname⟩
    · obtain ⟨hdiscover, hdisabled, ho⟩ := (mem_discovered_iff e).mp hd
      exact Or.inr ⟨hdiscover, hname ▸ hdisabled, e, ho, hname⟩
  · rintro (⟨m, hm, e, hb, hname⟩ | ⟨hdiscover, hdisabled, e, ho, hname⟩)
    · exact ⟨e, (hmem e).mpr (Or.inl ⟨m, hm, hb⟩), hname⟩
    · have hd := (mem_discovered_iff e).mpr ⟨hdiscover, hname ▸ hdisabled, ho⟩
      exact ⟨e, (hmem e).mpr (Or.inr hd), hname⟩

/-- If every offered name that a module binds is disabled, only bindings of one origin can
collide. -/
theorem nodup_bindings_iff
    (h : ∀ e ∈ catalogue.offers, (∃ m ∈ modules, ∃ f ∈ m.bindings, f.name = e.name) →
      e.name ∈ config.registry.disabled) :
    ((bindings catalogue config modules).map Entry.name).Nodup ↔
      ((modules.flatMap Module.bindings).map Entry.name).Nodup ∧
        ((discovered catalogue config).map Entry.name).Nodup := by
  rw [bindings, List.map_append, List.nodup_append]
  constructor
  · rintro ⟨hm, hd, -⟩
    exact ⟨hm, hd⟩
  · rintro ⟨hm, hd⟩
    refine ⟨hm, hd, fun name hname other hother heq => ?_⟩
    obtain ⟨f, hf, rfl⟩ := List.mem_map.mp hname
    obtain ⟨e, he, rfl⟩ := List.mem_map.mp hother
    obtain ⟨m, hmod, hb⟩ := List.mem_flatMap.mp hf
    obtain ⟨-, hdisabled, ho⟩ := (mem_discovered_iff e).mp he
    exact hdisabled (h e ho ⟨m, hmod, f, hb, heq⟩)

/-- What is bound depends on the configuration only through whether it asks for discovery, and
which names it disables. -/
theorem bindings_congr {other : Config}
    (hdiscover : other.registry.discover = config.registry.discover)
    (hdisabled : ∀ name, name ∈ other.registry.disabled ↔ name ∈ config.registry.disabled) :
    bindings catalogue other modules = bindings catalogue config modules := by
  have hkeep : (fun e : Entry => decide (e.name ∉ other.registry.disabled)) =
      fun e => decide (e.name ∉ config.registry.disabled) := by
    funext e
    rw [decide_eq_decide, hdisabled]
  rw [bindings, bindings, discovered, discovered, hdiscover, hkeep]

/-! ## The assembly -/

/-- The assembly sees the entries of the modules, one module after the other, and then, if
discovery is asked for, those on offer that are not disabled, in ascending order of the bytes of
their names, those of one name as they came. It succeeds exactly if the names are distinct, with
these entries as they are, and else reports the first name that repeats an earlier one. So a module
can bind a disabled name, disabling the offered names that modules bind leaves no collision between
the two, and only the set of disabled names matters. -/
theorem build_assembles_bindings (catalogue : Catalogue) (config : Config)
    (modules : List Module) :
    let bound := modules.flatMap Module.bindings ++
      if config.registry.discover then
        catalogue.sorted.filter fun e => e.name ∉ config.registry.disabled
      else []
    let result := (build catalogue config modules).1
    catalogue.sorted.Perm catalogue.offers ∧
    catalogue.sorted.Pairwise (fun a b => Text.utf8 a.name ≤ Text.utf8 b.name) ∧
    (∀ name, catalogue.sorted.filter (fun e => e.name == name) =
      catalogue.offers.filter fun e => e.name == name) ∧
    (collect catalogue config modules).1.entries = bound ∧
    ((∃ container, result = .ok container) ↔ (bound.map Entry.name).Nodup) ∧
    (∀ container, result = .ok container →
      container.config = config ∧ container.registry.entries = bound) ∧
    (∀ e, result = .error e ↔
      ∃ j name, FirstRepeat (bound.map Entry.name) j name ∧ e = .duplicateBinding name) ∧
    (∀ container, result = .ok container → ∀ d, container.registry.contains d = true ↔
      (∃ m ∈ modules, ∃ e ∈ m.bindings, e.name = d.name) ∨
      (config.registry.discover = true ∧ d.name ∉ config.registry.disabled ∧
        ∃ e ∈ catalogue.offers, e.name = d.name)) ∧
    ((∀ e ∈ catalogue.offers, (∃ m ∈ modules, ∃ f ∈ m.bindings, f.name = e.name) →
        e.name ∈ config.registry.disabled) →
      ((∃ container, result = .ok container) ↔
        ((modules.flatMap Module.bindings).map Entry.name).Nodup ∧
        (config.registry.discover = true →
          ((catalogue.sorted.filter fun e => e.name ∉ config.registry.disabled).map
            Entry.name).Nodup))) ∧
    ∀ other : Config, other.registry.discover = config.registry.discover →
      (∀ name, name ∈ other.registry.disabled ↔ name ∈ config.registry.disabled) →
      (build catalogue other modules).1.map Container.registry =
        result.map Container.registry := by
  intro bound result
  have hbound : bindings catalogue config modules = bound := rfl
  refine ⟨catalogue.sorted_perm, catalogue.pairwise_le_sorted, catalogue.filter_name_sorted,
    entries_collect _ _ _, exists_build_eq_ok_iff, fun container h => ?_, fun e => ?_,
    fun container h => contains_iff_of_build h, fun hcollide => ?_,
    fun other hdiscover hdisabled => ?_⟩
  · exact ⟨((build_eq_ok_iff container).mp h).1, entries_of_build h⟩
  · rw [← hbound, ← entries_collect, ← Builder.build_eq_error_iff]
    exact build_eq_error_iff e
  · rw [exists_build_eq_ok_iff, nodup_bindings_iff hcollide, discovered]
    cases config.registry.discover with
    | true => simp
    | false => simp
  · rw [map_registry_build, map_registry_build, bindings_congr hdiscover hdisabled]

/-- A module binds an offered name: a collision, unless the name is disabled. -/
theorem build_assembles_bindings_of_offered_name :
    let quiet : Supplier := .always (.error (.plain "closed"))
    let own : Entry := ⟨.root "screen", "Own screen", quiet⟩
    let catalogue : Catalogue := ⟨[⟨.root "screen", "Offered screen", quiet⟩]⟩
    let disabling : Config := ⟨.default, ⟨true, ["screen"]⟩⟩
    (build catalogue .default [⟨"panels", [own]⟩]).1 = .error (.duplicateBinding "screen") ∧
    ∃ container, (build catalogue disabling [⟨"panels", [own]⟩]).1 = .ok container ∧
      container.registry.entries = [own] := by
  intro quiet own catalogue disabling
  obtain ⟨-, -, -, -, -, -, herror, -⟩ :=
    build_assembles_bindings catalogue .default [⟨"panels", [own]⟩]
  obtain ⟨-, -, -, -, hok, hentries, -⟩ :=
    build_assembles_bindings catalogue disabling [⟨"panels", [own]⟩]
  have hsorted : catalogue.sorted = [⟨.root "screen", "Offered screen", quiet⟩] :=
    List.mergeSort_singleton _
  rw [hsorted] at herror hok hentries
  refine ⟨(herror _).mpr ⟨1, "screen", ⟨rfl, ⟨0, Nat.zero_lt_one, rfl⟩, ?_⟩, rfl⟩, ?_⟩
  · rintro k hk ⟨name, -, i, hi, -⟩
    omega
  · obtain ⟨container, h⟩ := hok.mpr (by decide)
    exact ⟨container, h, (hentries container h).2⟩

end StateHolders.Container
