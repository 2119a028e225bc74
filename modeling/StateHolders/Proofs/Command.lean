import StateHolders.Proofs.Command.Resolve

/-!
# What the commands say about the holders on offer

The report lists the holders on offer and marks those that are disabled; it looks at the offers
alone. `resolve` assembles a container and looks for the very name in it. The two agree: with
discovery a name is unknown exactly if the report does not list it, or lists it with the mark, and
without discovery every name is unknown.
-/

namespace StateHolders

/-- Without a repeated name the listing is strictly ascending. -/
theorem Catalogue.pairwise_lt_sorted {c : Catalogue} (hn : (c.offers.map Entry.name).Nodup) :
    c.sorted.Pairwise fun a b => Text.utf8 a.name < Text.utf8 b.name := by
  have hne : c.sorted.Pairwise fun a b => a.name ≠ b.name := by
    have hs : (c.sorted.map Entry.name).Nodup :=
      ((c.sorted_perm.map Entry.name).nodup_iff).mpr hn
    exact List.pairwise_map.mp hs
  refine (c.pairwise_le_sorted.and hne).imp ?_
  rintro a b ⟨hle, hab⟩
  exact (List.le_iff_lt_or_eq.mp hle).resolve_right fun heq => hab (Text.utf8_injective heq)

namespace Command

variable {catalogue : Catalogue} {config : Config}

/-! ## The report -/

theorem marker_eq (config : Config) (name : String) :
    marker config name = if name ∈ config.registry.disabled then " (disabled)" else "" := by
  simp [marker, RegistryConfig.isDisabled]

/-- An output without limit takes the whole report. -/
theorem run_list_of_limit_eq_none {o : Output} (h : o.limit = none) (catalogue : Catalogue)
    (config : Config) :
    (run catalogue config o .list).result = .ok () ∧
      (run catalogue config o .list).output.taken =
        o.taken ++ Text.utf8 (String.join ((reportLines catalogue config).map (· ++ "\n"))) := by
  simp only [run, writeReport_of_limit_eq_none h, and_self]

/-- The report has its header and a line for each holder on offer, by name. -/
theorem reportLines_eq (catalogue : Catalogue) (config : Config) :
    reportLines catalogue config = "Registered state holders:" :: catalogue.sorted.map fun e =>
      "  - " ++ e.name ++ ": " ++ e.description ++
        if e.name ∈ config.registry.disabled then " (disabled)" else "" := by
  simp only [reportLines, Catalogue.listing, List.map_map, Function.comp_def, marker_eq]

/-! ## Unknown names -/

/-- Without a repeated name the container of the holders on offer is complete. -/
theorem exists_container (hn : (catalogue.offers.map Entry.name).Nodup) (config : Config) :
    ∃ container, (Container.build catalogue config []).1 = .ok container := by
  rw [Container.exists_build_eq_ok_iff, Container.bindings]
  have hs : (catalogue.sorted.map Entry.name).Nodup :=
    ((catalogue.sorted_perm.map Entry.name).nodup_iff).mpr hn
  have hsub : (Container.discovered catalogue config).Sublist catalogue.sorted := by
    rw [Container.discovered]
    split
    · exact List.filter_sublist
    · exact List.nil_sublist _
  simpa using hs.sublist (hsub.map Entry.name)

/-- Writing a report fails with the output's own error at most. -/
theorem result_writeReport_ne_unknownHolder (o : Output) (calls : Calls) (events : List Event)
    (lines : List String) (name : String) :
    (writeReport o calls events lines).result ≠ .error (.unknownHolder name) := by
  rw [writeReport]
  dsimp only
  cases (o.writeLines lines).2 with
  | none =>
    intro h
    cases h
  | some f =>
    intro h
    cases h

/-- In a complete container a name is unknown exactly if no discovered holder has it: a broader
holder does not help, and a failure of the supplier or of the output is another error. -/
theorem resolve_eq_unknownHolder_iff {container : Container}
    (h : (Container.build catalogue config []).1 = .ok container) (o : Output) (name : String) :
    (resolve catalogue config o name).result = .error (.unknownHolder name) ↔
      ∀ e ∈ Container.discovered catalogue config, e.name ≠ name := by
  constructor
  · intro hunknown e he hname
    cases ho : e.supplier.outcome 0 with
    | error cause =>
      rw [resolve_of_failure h he hname ho o] at hunknown
      cases hunknown
    | ok holder =>
      rw [resolve_of_success h he hname ho o] at hunknown
      exact result_writeReport_ne_unknownHolder _ _ _ _ _ hunknown
  · intro hn
    rw [resolve_of_unbound h hn o]

/-! ## Agreement -/

/-- Without a repeated name, `list` writes its header and one line for each holder on offer, in
ascending order of the bytes of their names, and marks those that are disabled. With discovery
`resolve` knows a name exactly if it is listed without the mark, and without discovery it knows
none. -/
theorem list_agrees_with_resolve (hn : (catalogue.offers.map Entry.name).Nodup)
    (config : Config) :
    ∃ listed : List Entry,
      listed.Perm catalogue.offers ∧
      listed.Pairwise (fun a b => Text.utf8 a.name < Text.utf8 b.name) ∧
      (let line := fun e : Entry => "  - " ++ e.name ++ ": " ++ e.description ++
          if e.name ∈ config.registry.disabled then " (disabled)" else ""
        let outcome := run catalogue config .unlimited .list
        outcome.result = .ok () ∧
        outcome.output.taken = Text.utf8 (String.join
          (("Registered state holders:" :: listed.map line).map (· ++ "\n")))) ∧
      (config.registry.discover = true → ∀ (o : Output) (name : String),
        (run catalogue config o (.resolve name)).result = .error (.unknownHolder name) ↔
          (∀ e ∈ listed, e.name ≠ name) ∨
            ∃ e ∈ listed, e.name = name ∧ e.name ∈ config.registry.disabled) ∧
      (config.registry.discover = false → ∀ (o : Output) (name : String),
        (run catalogue config o (.resolve name)).result = .error (.unknownHolder name)) := by
  obtain ⟨container, h⟩ := exists_container hn config
  have hlist := run_list_of_limit_eq_none (o := .unlimited) rfl catalogue config
  refine ⟨catalogue.sorted, catalogue.sorted_perm, Catalogue.pairwise_lt_sorted hn,
    ⟨hlist.1, ?_⟩, fun hd o name => ?_, fun hd o name => ?_⟩
  · rw [hlist.2, reportLines_eq]
    rfl
  · have hmem (e : Entry) : e ∈ Container.discovered catalogue config ↔
        e ∈ catalogue.sorted ∧ e.name ∉ config.registry.disabled := by
      rw [Container.mem_discovered_iff, catalogue.mem_sorted]
      simp [hd, and_comm]
    rw [run, resolve_eq_unknownHolder_iff h]
    constructor
    · intro hunbound
      by_cases hlisted : ∃ e ∈ catalogue.sorted, e.name = name
      · obtain ⟨e, he, hname⟩ := hlisted
        refine Or.inr ⟨e, he, hname, ?_⟩
        by_contra hdisabled
        exact hunbound e ((hmem e).mpr ⟨he, hdisabled⟩) hname
      · exact Or.inl fun e he hname => hlisted ⟨e, he, hname⟩
    · rintro (hnone | ⟨f, -, hf, hdisabled⟩) e he hname
      · exact hnone e ((hmem e).mp he).1 hname
      · rw [hf, ← hname] at hdisabled
        exact ((hmem e).mp he).2 hdisabled
  · rw [run, resolve_eq_unknownHolder_iff h]
    intro e he
    have := (Container.mem_discovered_iff e).mp he
    simp [hd] at this

/-- Of two holders on offer one is disabled, and so is a name that nobody offers: `resolve` knows
the other holder only, and without discovery not even that one. -/
theorem list_agrees_with_resolve_of_disabled_viewer :
    let holder : Holder := ⟨"screen", .root "screen"⟩
    let viewer : Entry := ⟨⟨"viewer", [.root "screen"]⟩, "Reads", .always (.ok holder)⟩
    let screen : Entry := ⟨.root "screen", "Shows", .always (.ok holder)⟩
    let catalogue : Catalogue := ⟨[viewer, screen]⟩
    let disabling : Config := ⟨.default, ⟨true, ["viewer", "panel"]⟩⟩
    let closed : Config := ⟨.default, ⟨false, []⟩⟩
    let resolved := fun config name => (run catalogue config .unlimited (.resolve name)).result
    (catalogue.offers.map Entry.name).Nodup ∧
      (run catalogue disabling .unlimited .list).result = .ok () ∧
      resolved disabling "viewer" = .error (.unknownHolder "viewer") ∧
      resolved disabling "panel" = .error (.unknownHolder "panel") ∧
      resolved disabling "screen" ≠ .error (.unknownHolder "screen") ∧
      resolved closed "screen" = .error (.unknownHolder "screen") := by
  intro holder viewer screen catalogue disabling closed resolved
  have hn : (catalogue.offers.map Entry.name).Nodup := by decide
  obtain ⟨listed, hperm, -, ⟨hlist, -⟩, hknown, -⟩ := list_agrees_with_resolve hn disabling
  obtain ⟨-, -, -, -, -, hclosed⟩ := list_agrees_with_resolve hn closed
  have hlisted (e : Entry) : e ∈ listed ↔ e = viewer ∨ e = screen := by
    rw [hperm.mem_iff]
    exact List.mem_pair
  have hk (name : String) := hknown rfl .unlimited name
  refine ⟨hn, hlist, (hk _).mpr (Or.inr ⟨viewer, (hlisted _).mpr (Or.inl rfl), rfl, by decide⟩),
    (hk _).mpr (Or.inl ?_), fun hunknown => ?_, hclosed rfl .unlimited _⟩
  · intro e he
    rcases (hlisted e).mp he with rfl | rfl
    · decide
    · decide
  · rcases (hk _).mp hunknown with hnone | ⟨e, he, hname, hdisabled⟩
    · exact hnone screen ((hlisted _).mpr (Or.inr rfl)) rfl
    · rw [hname] at hdisabled
      revert hdisabled
      decide

end Command

end StateHolders
