import Mathlib
import StateHolders.Command.Run
import StateHolders.Proofs.Container

/-!
# What `resolve` does

`resolve` assembles a container of the holders on offer, looks for the very name among its bindings,
and creates one holder for the key that it finds. Such a key is served by its own entry. So the
creation can fail with the supplier alone, and it never falls back on a broader entry. The four ways
in which `resolve` can end are told apart by the container, by the names in it, and by the first
answer of the supplier.
-/

namespace StateHolders.Command

/-! ## Reports -/

/-- An output without limit takes a whole report. -/
theorem writeReport_of_limit_eq_none {o : Output} (h : o.limit = none) (calls : Calls)
    (events : List Event) (lines : List String) :
    writeReport o calls events lines = ⟨.ok (), { o with
      taken := o.taken ++ Text.utf8 (String.join (lines.map (· ++ "\n"))) }, calls, events⟩ := by
  rw [writeReport, Output.writeLines_of_limit_eq_none h]

/-! ## The ways to end -/

variable {catalogue : Catalogue} {config : Config} {container : Container} {name : String}

/-- The container of `resolve` binds what is discovered. -/
theorem entries_of_container (h : (Container.build catalogue config []).1 = .ok container) :
    container.registry.entries = Container.discovered catalogue config := by
  rw [Container.entries_of_build h, Container.bindings]
  rfl

/-- `resolve` looks for the very name among the entries. -/
theorem descriptorNamed_eq_findExact (h : (Container.build catalogue config []).1 = .ok container)
    (name : String) : container.registry.descriptorNamed name =
      (container.registry.findExact (.root name)).map Entry.descriptor :=
  (Container.sound_of_build h).descriptorNamed_eq (.root name)

/-- The container of `resolve` fails with the first name that is discovered twice. -/
theorem build_eq_error_iff (error : Error) :
    (Container.build catalogue config []).1 = .error error ↔ ∃ j repeated,
      FirstRepeat ((Container.discovered catalogue config).map Entry.name) j repeated ∧
        error = .duplicateBinding repeated := by
  rw [Container.build_eq_error_iff, Builder.build_eq_error_iff, Container.entries_collect,
    Container.bindings]
  rfl

/-- Without a container nothing is looked for. -/
theorem resolve_of_build_eq_error {error : Error}
    (h : (Container.build catalogue config []).1 = .error error) (o : Output) (name : String) :
    resolve catalogue config o name =
      ⟨.error error, o, .none, (Container.build catalogue config []).2⟩ := by
  rw [resolve, h]

/-- A name that no discovered holder has is unknown, and nothing is called for it. -/
theorem resolve_of_unbound (h : (Container.build catalogue config []).1 = .ok container)
    (hn : ∀ e ∈ Container.discovered catalogue config, e.name ≠ name) (o : Output) :
    resolve catalogue config o name =
      ⟨.error (.unknownHolder name), o, .none, (Container.build catalogue config []).2⟩ := by
  have hnone : container.registry.descriptorNamed name = none := by
    rw [descriptorNamed_eq_findExact h, Option.map_eq_none_iff,
      (Container.sound_of_build h).findExact_eq_none_iff, entries_of_container h]
    exact hn
  rw [resolve, h]
  dsimp only
  rw [hnone]

section Bound

variable {e : Entry} (h : (Container.build catalogue config []).1 = .ok container)
  (he : e ∈ Container.discovered catalogue config) (hname : e.name = name)
include h he hname

/-- The name of a discovered holder leads to its own entry. -/
theorem lookup_of_bound : container.registry.descriptorNamed name = some e.descriptor ∧
    container.registry.lookup e.descriptor = some (e, .exact) := by
  have hs := Container.sound_of_build h
  rw [← entries_of_container h] at he
  have hfound := (hs.findExact_eq_some_iff (.root name) e).mpr ⟨he, hname⟩
  refine ⟨?_, (hs.lookup_eq_exact_iff _ e).mpr ⟨he, rfl⟩⟩
  rw [descriptorNamed_eq_findExact h, hfound, Option.map_some]

/-- A discovered holder whose supplier fails is called once, and the failure is reported under the
name. -/
theorem resolve_of_failure {cause : Cause} (ho : e.supplier.outcome 0 = .error cause)
    (o : Output) : resolve catalogue config o name =
      ⟨.error (.creation name cause), o, Calls.none.record name,
        (Container.build catalogue config []).2 ++
          [Creation.matchedEvent e.descriptor e .exact,
            Creation.failedEvent e.descriptor cause]⟩ := by
  obtain ⟨hnamed, hlookup⟩ := lookup_of_bound h he hname
  have hcreate := Registry.create_of_outcome_eq_error hlookup .none ho
  have hkey : e.descriptor.name = name := hname
  rw [resolve, h]
  dsimp only
  rw [hnamed]
  dsimp only
  rw [hcreate, hkey, hname]

/-- A discovered holder whose supplier answers is called once, and its line is written. -/
theorem resolve_of_success {holder : Holder} (ho : e.supplier.outcome 0 = .ok holder)
    (o : Output) : resolve catalogue config o name =
      writeReport o (Calls.none.record name)
        ((Container.build catalogue config []).2 ++ [Creation.matchedEvent e.descriptor e .exact])
        [resolvedLine name holder] := by
  obtain ⟨hnamed, hlookup⟩ := lookup_of_bound h he hname
  have hcreate := Registry.create_of_outcome_eq_ok hlookup .none ho
  rw [resolve, h]
  dsimp only
  rw [hnamed]
  dsimp only
  rw [hcreate, hname]

end Bound

/-! ## The account -/

/-- With an output that takes everything, a success of `resolve` means that the container is
complete, that the discovered holder of the very name was found exactly, that its supplier was
called once, and nothing else, and that one line with what the holder reports was added to the
output. A failure leaves the output as it was. It is the first name that is discovered twice; or
else that no discovered holder has the name, and nothing was called; or else what the supplier of
the holder of that name failed with. -/
theorem resolve_serves_own_name {o : Output} (hlimit : o.limit = none) (catalogue : Catalogue)
    (config : Config) (name : String) :
    let built := Container.build catalogue config []
    let discovered := Container.discovered catalogue config
    let outcome := run catalogue config o (.resolve name)
    (outcome.result = .ok () → ∃ container e holder,
      built.1 = .ok container ∧ e ∈ discovered ∧ e.name = name ∧
      container.registry.lookup e.descriptor = some (e, .exact) ∧
      e.supplier.outcome 0 = .ok holder ∧ outcome.calls.log = [name] ∧
      outcome.events = built.2 ++ [Creation.matchedEvent e.descriptor e .exact] ∧
      outcome.output = { o with
        taken := o.taken ++
          Text.utf8 ("Resolved '" ++ name ++ "' -> " ++ holder.descriptor.name ++ "\n") }) ∧
    ∀ error, outcome.result = .error error → outcome.output = o ∧
      ((built.1 = .error error ∧ outcome.calls.log = [] ∧
        ∃ j repeated, FirstRepeat (discovered.map Entry.name) j repeated ∧
          error = .duplicateBinding repeated) ∨
      ∃ container, built.1 = .ok container ∧
        (((∀ e ∈ discovered, e.name ≠ name) ∧ outcome.calls.log = [] ∧
          error = .unknownHolder name) ∨
        ∃ e cause, e ∈ discovered ∧ e.name = name ∧ e.supplier.outcome 0 = .error cause ∧
          outcome.calls.log = [name] ∧ error = .creation name cause)) := by
  intro built discovered outcome
  have houtcome : outcome = resolve catalogue config o name := rfl
  cases hbuilt : (Container.build catalogue config []).1 with
  | error error =>
    rw [houtcome, resolve_of_build_eq_error hbuilt o name]
    refine ⟨nofun, fun other hother => ⟨rfl, Or.inl ?_⟩⟩
    obtain rfl := Except.error.inj hother
    exact ⟨rfl, rfl, (build_eq_error_iff error).mp hbuilt⟩
  | ok container =>
    by_cases hbound : ∃ e ∈ Container.discovered catalogue config, e.name = name
    · obtain ⟨e, he, hname⟩ := hbound
      cases ho : e.supplier.outcome 0 with
      | error cause =>
        rw [houtcome, resolve_of_failure hbuilt he hname ho o]
        refine ⟨nofun, fun other hother => ⟨rfl, Or.inr ⟨container, rfl, Or.inr ?_⟩⟩⟩
        obtain rfl := Except.error.inj hother
        exact ⟨e, cause, he, hname, ho, rfl, rfl⟩
      | ok holder =>
        have hlookup := (lookup_of_bound hbuilt he hname).2
        rw [houtcome, resolve_of_success hbuilt he hname ho o, writeReport_of_limit_eq_none hlimit]
        refine ⟨fun _ => ⟨container, e, holder, rfl, he, hname, hlookup, ho, rfl, rfl, ?_⟩, nofun⟩
        simp [resolvedLine]
    · have hn : ∀ e ∈ Container.discovered catalogue config, e.name ≠ name :=
        fun e he hname => hbound ⟨e, he, hname⟩
      rw [houtcome, resolve_of_unbound hbuilt hn o]
      refine ⟨nofun, fun other hother => ⟨rfl, Or.inr ⟨container, rfl, Or.inl ?_⟩⟩⟩
      obtain rfl := Except.error.inj hother
      exact ⟨hn, rfl, rfl⟩

/-- An offered viewer is found under its name and reports another one, which its line tells. Once it
is disabled it is unknown, though an offered screen could serve it. The supplier of the screen
fails, and a second screen on offer leaves no container. -/
theorem resolve_serves_own_name_of_viewer :
    let masked : Holder := ⟨"viewer", .root "masked"⟩
    let spent : Supplier := .always (.error (.plain "spent"))
    let viewer : Entry :=
      ⟨⟨"viewer", [.root "screen"]⟩, "Reads", .inTurn [.always (.ok masked)] spent⟩
    let screen : Entry := ⟨.root "screen", "Shows", spent⟩
    let o : Output := ⟨Text.utf8 "Report\n", none, .wroteNothing⟩
    let disabling : Config := ⟨.default, ⟨true, ["viewer"]⟩⟩
    let asked := fun offers config name => run ⟨offers⟩ config o (.resolve name)
    o.limit = none ∧
      (asked [viewer, screen] .default "viewer").result = .ok () ∧
      (asked [viewer, screen] .default "viewer").calls.log = ["viewer"] ∧
      (asked [viewer, screen] .default "viewer").output.taken =
        Text.utf8 "Report\n" ++ Text.utf8 "Resolved 'viewer' -> masked\n" ∧
      (asked [viewer, screen] disabling "viewer").result = .error (.unknownHolder "viewer") ∧
      (asked [viewer, screen] disabling "viewer").calls.log = [] ∧
      (asked [viewer, screen] .default "screen").result =
        .error (.creation "screen" (.plain "spent")) ∧
      (asked [viewer, screen] .default "screen").output = o ∧
      (asked [screen, viewer, screen] .default "viewer").result =
        .error (.duplicateBinding "screen") ∧
      (asked [screen, viewer, screen] .default "viewer").output = o := by
  intro masked spent viewer screen o disabling asked
  obtain ⟨hserved, hunknown, hspent, htwice⟩ :
      (asked [viewer, screen] .default "viewer").result = .ok () ∧
      (asked [viewer, screen] disabling "viewer").result = .error (.unknownHolder "viewer") ∧
      (asked [viewer, screen] .default "screen").result =
        .error (.creation "screen" (.plain "spent")) ∧
      (asked [screen, viewer, screen] .default "viewer").result =
        .error (.duplicateBinding "screen") := by
    unfold asked o disabling viewer screen masked spent
    exact ⟨by cbv, by cbv, by cbv, by cbv⟩
  have haccount (offers : List Entry) (config : Config) (name : String) :=
    resolve_serves_own_name (o := o) rfl ⟨offers⟩ config name
  obtain ⟨container, e, holder, -, he, hname, -, ho, hcalls, -, houtput⟩ :=
    (haccount [viewer, screen] .default "viewer").1 hserved
  have hmasked : holder = masked := by
    obtain ⟨-, -, hoffered⟩ := (Container.mem_discovered_iff e).mp he
    rcases List.mem_pair.mp hoffered with rfl | rfl
    · exact (Except.ok.inj ho).symm
    · exact absurd hname (by decide)
  obtain ⟨-, hcases⟩ := (haccount [viewer, screen] disabling "viewer").2 _ hunknown
  have hnothing : (asked [viewer, screen] disabling "viewer").calls.log = [] := by
    rcases hcases with ⟨-, hlog, -⟩ | ⟨_, -, ⟨-, hlog, -⟩ | ⟨_, _, he', hname', -⟩⟩
    · exact hlog
    · exact hlog
    · have hdisabled := ((Container.mem_discovered_iff _).mp he').2.1
      rw [hname'] at hdisabled
      exact absurd (List.mem_singleton.mpr rfl) hdisabled
  refine ⟨rfl, hserved, hcalls, ?_, hunknown, hnothing, hspent,
    ((haccount [viewer, screen] .default "screen").2 _ hspent).1, htwice,
    ((haccount [screen, viewer, screen] .default "viewer").2 _ htwice).1⟩
  rw [houtput, hmasked]
  rfl

end StateHolders.Command
