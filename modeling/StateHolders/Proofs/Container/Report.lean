import Mathlib
import StateHolders.Proofs.Container

/-!
# What an assembly reports

The assembly of a container reports each of its steps: every module with the number of its bindings,
every disabled name that nobody offers, every holder that is discovered, and the container itself.
The report is complete, so the size of a container can be read off it, and it settles for every
disabled name whether it keeps something out.
-/

namespace StateHolders

/-! ## Reading a report -/

namespace Event

/-- The number that an event gives in a field. -/
def number? (field : String) (e : Event) : Option Nat :=
  match Dictionary.get? field e.fields with
  | some (.count n) => some n
  | _ => none

/-- The numbers that events give in a field, in their order. -/
def numbers (field : String) (events : List Event) : List Nat := events.filterMap (number? field)

/-- How many events report that a holder on offer was found. -/
def discoveries (events : List Event) : Nat :=
  events.countP fun e => e.message == "Discovered registered state holder"

theorem numbers_append (field : String) (before after : List Event) :
    numbers field (before ++ after) = numbers field before ++ numbers field after :=
  List.filterMap_append

theorem discoveries_append (before after : List Event) :
    discoveries (before ++ after) = discoveries before + discoveries after :=
  List.countP_append

/-- Events of one kind that all give a number give these numbers. -/
theorem numbers_map {α : Type} {field : String} {event : α → Event} {number : α → Nat}
    (h : ∀ a, (event a).number? field = some (number a)) (as : List α) :
    numbers field (as.map event) = as.map number := by
  rw [numbers, List.filterMap_map, ← List.filterMap_eq_map]
  exact congrArg (List.filterMap · as) (funext h)

/-- Events of one kind that give no number give none together. -/
theorem numbers_map_eq_nil {α : Type} {field : String} {event : α → Event}
    (h : ∀ a, (event a).number? field = none) (as : List α) :
    numbers field (as.map event) = [] := by
  rw [numbers, List.filterMap_map]
  exact List.filterMap_eq_nil_iff.mpr fun a _ => h a

/-- Events of a kind with another message are no discoveries. -/
theorem discoveries_map_eq_zero {α : Type} {event : α → Event}
    (h : ∀ a, (event a).message ≠ "Discovered registered state holder") (as : List α) :
    discoveries (as.map event) = 0 := by
  rw [discoveries, List.countP_map]
  exact List.countP_eq_zero.mpr fun a _ ha => h a (beq_iff_eq.mp ha)

theorem discoveries_map_discoveredEvent (es : List Entry) :
    discoveries (es.map discoveredEvent) = es.length := by
  rw [discoveries, List.countP_map]
  exact List.countP_eq_length.mpr fun e _ => beq_iff_eq.mpr rfl

end Event

namespace Container

open Event (numbers discoveries)

/-! ## The parts of the report -/

/-- The disabled names that discovery does not find, as often as they are disabled. -/
def strangers (catalogue : Catalogue) (config : Config) : List String :=
  if config.registry.discover then
    config.registry.disabled.filter fun name => name ∉ catalogue.offers.map Entry.name
  else []

theorem size_applyModule (b : Builder) (m : Module) :
    (applyModule b m).size = b.size + m.bindings.length := by
  rw [Builder.size, entries_applyModule, List.length_append]
  rfl

/-- Each module is reported with the number of its bindings. -/
theorem events_applyModules (b : Builder) (modules : List Module) :
    (applyModules b modules).2 = modules.map fun m => appliedEvent m m.bindings.length := by
  induction modules generalizing b with
  | nil => rfl
  | cons m rest ih =>
    have hcount : (applyModule b m).size - b.size = m.bindings.length := by
      rw [size_applyModule]
      omega
    rw [applyModules, ih, hcount]
    rfl

theorem offersName_iff (catalogue : Catalogue) (name : String) :
    catalogue.offersName name = true ↔ name ∈ catalogue.offers.map Entry.name := by
  rw [Catalogue.offersName, List.any_eq_true, List.mem_map]
  refine exists_congr fun e => ?_
  rw [catalogue.mem_sorted, beq_iff_eq]

/-- Discovery warns of the names that it does not find, and then reports what it finds. -/
theorem events_applyDiscovery (catalogue : Catalogue) (config : Config) (b : Builder) :
    (applyDiscovery catalogue config b).2 =
      (strangers catalogue config).map unknownDisabledEvent ++
        (discovered catalogue config).map discoveredEvent := by
  have hunknown : (fun name => !catalogue.offersName name) =
      fun name => decide (name ∉ catalogue.offers.map Entry.name) := by
    funext name
    rw [Bool.eq_iff_iff, Bool.not_eq_true', ← Bool.not_eq_true, offersName_iff, decide_eq_true_eq]
  cases hd : config.registry.discover with
  | true =>
    simp only [applyDiscovery, strangers, discovered, hd, if_true]
    rw [unknownDisabled, hunknown, Builder.discoveryEvents, Builder.kept, keeps_eq]
  | false => simp [applyDiscovery, strangers, discovered, hd]

/-- The modules are reported first. -/
theorem events_collect (catalogue : Catalogue) (config : Config) (modules : List Module) :
    (collect catalogue config modules).2 =
      modules.map (fun m => appliedEvent m m.bindings.length) ++
        ((strangers catalogue config).map unknownDisabledEvent ++
          (discovered catalogue config).map discoveredEvent) := by
  rw [collect, events_applyModules, events_applyDiscovery]

/-- A container that is complete is reported last. -/
theorem events_build (catalogue : Catalogue) (config : Config) (modules : List Module) :
    (build catalogue config modules).2 = (collect catalogue config modules).2 ++
      match (build catalogue config modules).1 with
      | .error _ => []
      | .ok container => completionEvents container.registry := by
  rw [build]
  cases (collect catalogue config modules).1.build with
  | error e => exact (List.append_nil _).symm
  | ok r => rfl

/-! ## The balance -/

/-- Of what was collected, the modules alone report bindings. -/
theorem numbers_bindings_collect (catalogue : Catalogue) (config : Config)
    (modules : List Module) : numbers "bindings" (collect catalogue config modules).2 =
      modules.map fun m => m.bindings.length := by
  have happlied : numbers "bindings" (modules.map fun m => appliedEvent m m.bindings.length) =
      modules.map fun m => m.bindings.length := Event.numbers_map (fun _ => rfl) modules
  rw [events_collect, Event.numbers_append, happlied, Event.numbers_append,
    Event.numbers_map_eq_nil fun _ => rfl, Event.numbers_map_eq_nil fun _ => rfl,
    List.append_nil, List.append_nil]

/-- Of what was collected, nothing reports the size of a container. -/
theorem numbers_holders_collect (catalogue : Catalogue) (config : Config)
    (modules : List Module) : numbers "holders" (collect catalogue config modules).2 = [] := by
  rw [events_collect, Event.numbers_append, Event.numbers_append,
    Event.numbers_map_eq_nil fun _ => rfl, Event.numbers_map_eq_nil fun _ => rfl,
    Event.numbers_map_eq_nil fun _ => rfl, List.append_nil, List.append_nil]

/-- As many holders are reported as found as are discovered. -/
theorem discoveries_collect (catalogue : Catalogue) (config : Config) (modules : List Module) :
    discoveries (collect catalogue config modules).2 =
      (discovered catalogue config).length := by
  have happlied : "Applied holder module" ≠ "Discovered registered state holder" := by decide
  have hunknown : "Disabled state holder is not registered" ≠
      "Discovered registered state holder" := by decide
  rw [events_collect, Event.discoveries_append, Event.discoveries_append,
    Event.discoveries_map_eq_zero fun _ => happlied,
    Event.discoveries_map_eq_zero fun _ => hunknown, Event.discoveries_map_discoveredEvent,
    Nat.zero_add, Nat.zero_add]

/-- What was collected is what the modules report, and what is reported as found. -/
theorem size_collect (catalogue : Catalogue) (config : Config) (modules : List Module) :
    (collect catalogue config modules).1.size =
      (numbers "bindings" (collect catalogue config modules).2).sum +
        discoveries (collect catalogue config modules).2 := by
  rw [Builder.size, entries_collect, bindings, List.length_append, List.length_flatMap,
    numbers_bindings_collect, discoveries_collect]

/-- The last part of the report gives the size of the registry once, and nothing about its parts. -/
theorem balance_completionEvents (r : Registry) :
    numbers "bindings" (completionEvents r) = [] ∧
      numbers "holders" (completionEvents r) = [r.size] ∧
      discoveries (completionEvents r) = 0 := by
  cases hempty : r.isEmpty with
  | true =>
    rw [completionEvents, hempty]
    exact ⟨rfl, rfl, rfl⟩
  | false =>
    rw [completionEvents, hempty]
    exact ⟨rfl, rfl, rfl⟩

/-- The report on a complete container gives its size, which is the sum of what was reported of its
parts. -/
theorem balance_of_build {catalogue : Catalogue} {config : Config} {modules : List Module}
    {container : Container} (h : (build catalogue config modules).1 = .ok container) :
    let events := (build catalogue config modules).2
    numbers "holders" events = [container.registry.size] ∧
      numbers "bindings" events = modules.map (fun m => m.bindings.length) ∧
      container.registry.size =
        (numbers "bindings" events).sum + discoveries events := by
  intro events
  obtain ⟨hbindings, hholders, hdiscoveries⟩ := balance_completionEvents container.registry
  have hevents : events = (collect catalogue config modules).2 ++
      completionEvents container.registry := by
    have hall := events_build catalogue config modules
    rw [h] at hall
    exact hall
  have hsize : container.registry.size = (collect catalogue config modules).1.size := by
    rw [Registry.size, Builder.entries_of_build ((build_eq_ok_iff container).mp h).2]
    rfl
  have hreported : numbers "bindings" events =
      numbers "bindings" (collect catalogue config modules).2 := by
    rw [hevents, Event.numbers_append, hbindings, List.append_nil]
  refine ⟨?_, ?_, ?_⟩
  · rw [hevents, Event.numbers_append, hholders, numbers_holders_collect, List.nil_append]
  · rw [hreported, numbers_bindings_collect]
  · rw [hsize, size_collect, hreported, hevents, Event.discoveries_append, hdiscoveries,
      Nat.add_zero]

/-! ## Disabled names -/

/-- A disabled name is reported as unknown exactly if discovery does not find it. -/
theorem unknownDisabledEvent_mem_iff (catalogue : Catalogue) (config : Config)
    (modules : List Module) (name : String) :
    unknownDisabledEvent name ∈ (build catalogue config modules).2 ↔
      name ∈ strangers catalogue config := by
  have hcompletion : unknownDisabledEvent name ∉
      match (build catalogue config modules).1 with
      | .error _ => []
      | .ok container => completionEvents container.registry := by
    cases (build catalogue config modules).1 with
    | error e => exact List.not_mem_nil
    | ok container =>
      simp [completionEvents, unknownDisabledEvent, emptyEvent, builtEvent]
  rw [events_build, List.mem_append, or_iff_left hcompletion, events_collect]
  simp [unknownDisabledEvent, appliedEvent, discoveredEvent]

/-! ## The account -/

/-- The assembly reports, in this order: every module with the number of bindings by which the
builder grew, which is that of its own; with discovery every disabled name that nobody offers, as
often as it is disabled, and then every holder on offer that is kept, in ascending order of the
bytes of their names, those of one name as they came; and on success, that nothing is bound if that
is so, and the size of the registry. On success this size is the sum of the numbers that were
reported of the modules and of the holders that were reported as found. With discovery a disabled
name is reported exactly if it keeps no holder on offer out. -/
theorem build_reports_everything (catalogue : Catalogue) (config : Config)
    (modules : List Module) :
    let result := (build catalogue config modules).1
    let events := (build catalogue config modules).2
    catalogue.sorted.Perm catalogue.offers ∧
    catalogue.sorted.Pairwise (fun a b => Text.utf8 a.name ≤ Text.utf8 b.name) ∧
    (∀ name, catalogue.sorted.filter (fun e => e.name == name) =
      catalogue.offers.filter fun e => e.name == name) ∧
    (∀ (b : Builder) (m : Module), (applyModule b m).size = b.size + m.bindings.length) ∧
    events = modules.map (fun m => appliedEvent m m.bindings.length) ++
      (if config.registry.discover then
        (config.registry.disabled.filter fun name => name ∉ catalogue.offers.map Entry.name).map
            unknownDisabledEvent ++
          (catalogue.sorted.filter fun e => e.name ∉ config.registry.disabled).map discoveredEvent
      else []) ++
      (match result with
      | .error _ => []
      | .ok container => (if container.registry.entries.isEmpty then [emptyEvent] else []) ++
          [builtEvent container.registry.entries.length]) ∧
    (∀ container, result = .ok container →
      numbers "holders" events = [container.registry.size] ∧
      numbers "bindings" events = modules.map (fun m => m.bindings.length) ∧
      container.registry.size = (numbers "bindings" events).sum + discoveries events) ∧
    (config.registry.discover = true → ∀ name ∈ config.registry.disabled,
      (unknownDisabledEvent name ∈ events ↔
        ¬∃ e ∈ catalogue.offers, e.name = name ∧ e ∉ discovered catalogue config)) := by
  intro result events
  refine ⟨catalogue.sorted_perm, catalogue.pairwise_le_sorted, catalogue.filter_name_sorted,
    size_applyModule, ?_, fun container h => balance_of_build h, ?_⟩
  · have hevents : events = _ := events_build catalogue config modules
    rw [hevents, events_collect]
    cases hd : config.registry.discover with
    | true => simp only [strangers, discovered, hd, if_true]; rfl
    | false => simp only [strangers, discovered, hd]; rfl
  · intro hd name hname
    have hexcluded (e : Entry) (he : e.name = name) : e ∉ discovered catalogue config := by
      intro hfound
      exact ((mem_discovered_iff e).mp hfound).2.1 (he ▸ hname)
    rw [unknownDisabledEvent_mem_iff, strangers, if_pos hd, List.mem_filter, decide_eq_true_eq,
      and_iff_right hname, List.mem_map]
    refine not_congr (exists_congr fun e => and_congr_right fun _ => ?_)
    exact ⟨fun he => ⟨he, hexcluded e he⟩, fun he => he.1⟩

/-- A module without bindings is reported with none. A stranger that is disabled twice is warned of
twice, and a viewer that is disabled is kept out without a warning. A module that binds an offered
screen leaves a report without an end. -/
theorem build_reports_everything_of_ghost :
    let quiet : Supplier := .always (.error (.plain "closed"))
    let screen : Entry := ⟨.root "screen", "Shows", quiet⟩
    let viewer : Entry := ⟨⟨"viewer", [.root "screen"]⟩, "Reads", quiet⟩
    let editor : Entry := ⟨.root "editor", "", quiet⟩
    let catalogue : Catalogue := ⟨[viewer, screen]⟩
    let config : Config := ⟨.default, ⟨true, ["ghost", "viewer", "ghost"]⟩⟩
    let modules : List Module := [⟨"nothing", []⟩, ⟨"panels", [editor]⟩]
    let r : Registry := ⟨[editor, screen], ⟨[("editor", 0), ("screen", 1)]⟩⟩
    let events := (build catalogue config modules).2
    (build catalogue config modules).1 = .ok ⟨config, r⟩ ∧
      events = [appliedEvent ⟨"nothing", []⟩ 0, appliedEvent ⟨"panels", [editor]⟩ 1,
        unknownDisabledEvent "ghost", unknownDisabledEvent "ghost", discoveredEvent screen,
        builtEvent 2] ∧
      numbers "bindings" events = [0, 1] ∧ numbers "holders" events = [2] ∧
      unknownDisabledEvent "ghost" ∈ events ∧ unknownDisabledEvent "viewer" ∉ events ∧
      (build catalogue config [⟨"panels", [screen]⟩]).2 = [appliedEvent ⟨"panels", [screen]⟩ 1,
        unknownDisabledEvent "ghost", unknownDisabledEvent "ghost", discoveredEvent screen] := by
  intro quiet screen viewer editor catalogue config modules r events
  have hbuilt : (build catalogue config modules).1 = .ok ⟨config, r⟩ := by
    unfold catalogue config modules r viewer editor screen quiet
    cbv
  have hfailed : (build catalogue config [⟨"panels", [screen]⟩]).1 =
      .error (.duplicateBinding "screen") := by
    unfold catalogue config viewer screen quiet
    cbv
  have hkept : (catalogue.sorted.filter fun e => e.name ∉ config.registry.disabled) = [screen] := by
    unfold catalogue config viewer screen quiet
    cbv
  obtain ⟨-, -, -, -, hevents, hbalance, hdisabled⟩ :=
    build_reports_everything catalogue config modules
  obtain ⟨-, -, -, -, hcollision, -⟩ :=
    build_reports_everything catalogue config [⟨"panels", [screen]⟩]
  obtain ⟨hholders, hbindings, -⟩ := hbalance _ hbuilt
  rw [hbuilt, hkept] at hevents
  rw [hfailed, hkept] at hcollision
  refine ⟨hbuilt, hevents, hbindings, hholders, ?_, ?_, hcollision⟩
  · rw [hdisabled rfl "ghost" (by decide)]
    rintro ⟨e, he, hname, -⟩
    rcases List.mem_pair.mp he with rfl | rfl
    · exact absurd hname (by decide)
    · exact absurd hname (by decide)
  · have hviewer : viewer ∉ discovered catalogue config := fun hfound =>
      ((mem_discovered_iff viewer).mp hfound).2.1 (by decide)
    rw [hdisabled rfl "viewer" (by decide), not_not]
    exact ⟨viewer, List.mem_cons_self, rfl, hviewer⟩

end Container

end StateHolders
