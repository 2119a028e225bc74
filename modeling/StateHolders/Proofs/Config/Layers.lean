import Mathlib
import StateHolders.Config.Loader
import StateHolders.Proofs.Config.Readers

/-!
# Which layer settles a setting

The environment comes before the file, and the file before the defaults, for each of the five
settings on its own. Only the five values that win in this way are read. What they override, and
what stands under other keys, changes neither the configuration nor what is reported.
-/

namespace StateHolders.Config

/-! ## The value that wins -/

/-- The value that a layer gives to a setting: a key in one of its two parts. -/
def setting? (part key : String) (layer : Fields) : Option Value :=
  (Dictionary.get? part layer).bind (Value.field? key)

/-- The value of a setting in the environment, or else in the file. -/
def winning? (file environment : Fields) (part key : String) : Option Value :=
  (setting? part key environment).or (setting? part key file)

/-- The settings of a configuration, each with the part in which it stands. -/
def settings : List (String × String) :=
  [("logging", "level"), ("logging", "json_format"), ("logging", "file_output"),
    ("registry", "discover"), ("registry", "disabled")]

/-- Both parts of a layer, where present, are tables. -/
def Sectioned (layer : Fields) : Prop :=
  ∀ part ∈ ["logging", "registry"], ∀ v, Dictionary.get? part layer = some v →
    ∃ o fields, v = .table o fields

theorem sectioned_nil : Sectioned [] := by
  intro part _ v hv
  cases hv

/-! ## Merged parts -/

/-- A part that is a table stays one under a layer whose part is one, and each key is laid over
that of the layer below. -/
theorem get?_part_fieldsOnto {base later : Fields} {part : String} {o : Origin} {old : Fields}
    (hbase : Dictionary.get? part base = some (.table o old))
    (hlater : ∀ v, Dictionary.get? part later = some v → ∃ o fields, v = .table o fields) :
    ∃ o' merged, Dictionary.get? part (Value.fieldsOnto base later) = some (.table o' merged) ∧
      ∀ key, Dictionary.get? key merged =
        lay (Dictionary.get? key old) (setting? part key later) := by
  rw [get?_fieldsOnto_eq_lay, hbase]
  cases hv : Dictionary.get? part later with
  | none =>
    refine ⟨o, old, rfl, fun key => ?_⟩
    rw [setting?, hv]
    rfl
  | some v =>
    obtain ⟨o', fields, rfl⟩ := hlater v hv
    refine ⟨o', Value.fieldsOnto old fields, by rw [lay, Value.ontoField, Value.onto], ?_⟩
    intro key
    rw [get?_fieldsOnto_eq_lay, setting?, hv]
    rfl

/-- The layers over the defaults. -/
def merged (file environment : Fields) : Fields :=
  Value.fieldsOnto (Value.fieldsOnto (toFields .defaults Config.default) file) environment

/-- A merged part is a table, in which each key is laid together from the three layers. -/
theorem get?_part_merged {file environment : Fields} (hfile : Sectioned file)
    (henv : Sectioned environment) {part : String} (hpart : part ∈ ["logging", "registry"])
    {defaults : Fields}
    (hdefaults : Dictionary.get? part (toFields .defaults Config.default) =
      some (.table .defaults defaults)) :
    ∃ o fields, Dictionary.get? part (merged file environment) = some (.table o fields) ∧
      ∀ key, Dictionary.get? key fields =
        lay (lay (Dictionary.get? key defaults) (setting? part key file))
          (setting? part key environment) := by
  obtain ⟨o, fields, hfields, hkeys⟩ := get?_part_fieldsOnto hdefaults (hfile part hpart)
  obtain ⟨o', fields', hfields', hkeys'⟩ := get?_part_fieldsOnto hfields (henv part hpart)
  exact ⟨o', fields', hfields', fun key => by rw [hkeys', hkeys]⟩

/-! ## Reading the winning values -/

/-- Reads a configuration from the winning values. -/
def readWinning (winner : String → String → Option Value) : Except Mismatch Config := do
  let logging ← readLoggingFrom ["logging"] (winner "logging")
  let registry ← readRegistryFrom ["registry"] (winner "registry")
  return ⟨logging, registry⟩

/-- The defaults state both parts of the default configuration. -/
theorem exists_parts_defaults :
    ∃ logging registry,
      Dictionary.get? "logging" (toFields .defaults Config.default) =
        some (.table .defaults logging) ∧
      Dictionary.get? "registry" (toFields .defaults Config.default) =
        some (.table .defaults registry) ∧
      SettlesLogging (fun key => Dictionary.get? key logging) Config.default.logging ∧
      SettlesRegistry (fun key => Dictionary.get? key registry) Config.default.registry :=
  ⟨_, _, rfl, rfl, ⟨⟨_, rfl⟩, ⟨_, rfl⟩, rfl⟩, ⟨⟨_, rfl⟩, ⟨_, _, rfl, .nil⟩⟩⟩

variable {file environment : Fields}

/-- Reading the merged layers is reading the winning values. -/
theorem alike_ofFields_merged (hfile : Sectioned file) (henv : Sectioned environment) :
    Alike (ofFields (merged file environment)) (readWinning (winning? file environment)) := by
  obtain ⟨logging, registry, hlogging, hregistry, hl, hr⟩ := exists_parts_defaults
  obtain ⟨o, logging', hlogging', hkeys⟩ := get?_part_merged hfile henv (by simp) hlogging
  obtain ⟨o', registry', hregistry', hkeys'⟩ := get?_part_merged hfile henv (by simp) hregistry
  rw [ofFields, readField, readField, hlogging', hregistry']
  refine Alike.bind ?_ fun _ => Alike.bind ?_ fun _ => .refl _
  · rw [readOr, readLogging_table, funext hkeys]
    exact alike_readLoggingFrom hl
  · rw [readOr, readRegistry_table, funext hkeys']
    exact alike_readRegistryFrom hr

/-- The winning values can be read exactly as what they settle. -/
theorem readWinning_eq_ok_iff (winner : String → String → Option Value) (c : Config) :
    readWinning winner = .ok c ↔ Settled winner c := by
  simp only [readWinning, bind_eq_ok_iff, readLoggingFrom_eq_ok_iff, readRegistryFrom_eq_ok_iff,
    settled_iff, pure, Except.pure, Except.ok.injEq]
  constructor
  · rintro ⟨logging, hlogging, registry, hregistry, rfl⟩
    exact ⟨hlogging, hregistry⟩
  · rintro ⟨hlogging, hregistry⟩
    exact ⟨_, hlogging, _, hregistry, rfl⟩

/-! ## What loading comes to -/

/-- The checks pass exactly if the level has a name and no disabled name is blank. -/
theorem check_eq_ok_iff (c c' : Config) :
    c.check = .ok c' ↔ c = c' ∧ (∃ level, Level.parse c.logging.level = .ok level) ∧
      ∀ name ∈ c.registry.disabled, Text.trim name.toList ≠ [] := by
  rw [check]
  cases Level.parse c.logging.level with
  | error e => simp
  | ok level =>
    by_cases hblank : c.registry.disabled.any Text.isAllBlank = true
    · have hexists : ∃ name ∈ c.registry.disabled, Text.trim name.toList = [] := by
        simpa [Text.isAllBlank] using hblank
      simp only [hblank, if_true, reduceCtorEq, false_iff]
      rintro ⟨-, -, hnone⟩
      obtain ⟨name, hname, htrim⟩ := hexists
      exact hnone name hname htrim
    · have hnone : ∀ name ∈ c.registry.disabled, Text.trim name.toList ≠ [] := by
        simpa [Text.isAllBlank] using hblank
      simpa [hblank] using fun _ => hnone

/-- What the winning values come to: a configuration, or what is reported. -/
def settle (winner : String → String → Option Value) : Except Error Config :=
  match readWinning winner with
  | .error m => .error (LoadFailure.mismatch m).toError
  | .ok c => c.check

theorem mapError_ofLayers (hfile : Sectioned file) (henv : Sectioned environment) :
    (ofLayers file environment).mapError LoadFailure.toError =
      settle (winning? file environment) := by
  have h := alike_ofFields_merged hfile henv
  rw [settle, ofLayers]
  change Except.mapError _ (match ofFields (merged file environment) with
    | .error m => _ | .ok c => _) = _
  cases hx : ofFields (merged file environment) with
  | ok c =>
    rw [(h.eq_ok_iff c).mp hx]
    dsimp only
    cases c.check with
    | error e => rfl
    | ok c => rfl
  | error m =>
    cases hy : readWinning (winning? file environment) with
    | ok c =>
      rw [(h.eq_ok_iff c).mpr hy] at hx
      cases hx
    | error m' =>
      rw [hx, hy] at h
      have hmessage : m.message = m'.message := Except.error.inj h
      exact congrArg (fun text => Except.error (Context.configuration.wrap LoadFailure.context
        (.plain text))) hmessage

/-- Only the winning values of the five settings count. -/
theorem settle_congr {winner winner' : String → String → Option Value}
    (h : ∀ setting ∈ settings, winner setting.1 setting.2 = winner' setting.1 setting.2) :
    settle winner = settle winner' := by
  have hlevel := h ("logging", "level") (by simp [settings])
  have hjson := h ("logging", "json_format") (by simp [settings])
  have hfile := h ("logging", "file_output") (by simp [settings])
  have hdiscover := h ("registry", "discover") (by simp [settings])
  have hdisabled := h ("registry", "disabled") (by simp [settings])
  dsimp only at hlevel hjson hfile hdiscover hdisabled
  rw [settle, settle, readWinning, readWinning, readLoggingFrom, readLoggingFrom,
    readRegistryFrom, readRegistryFrom, hlevel, hjson, hfile, hdiscover, hdisabled]

/-- The winning values come to a configuration exactly if they settle it and it passes the
checks. -/
theorem settle_eq_ok_iff (winner : String → String → Option Value) (c : Config) :
    settle winner = .ok c ↔ Settled winner c ∧
      (∃ level, Level.parse c.logging.level = .ok level) ∧
      ∀ name ∈ c.registry.disabled, Text.trim name.toList ≠ [] := by
  rw [← readWinning_eq_ok_iff, settle]
  cases hr : readWinning winner with
  | error m => simp
  | ok c' =>
    rw [check_eq_ok_iff]
    constructor
    · rintro ⟨rfl, hchecks⟩
      exact ⟨rfl, hchecks⟩
    · rintro ⟨heq, hchecks⟩
      obtain rfl := Except.ok.inj heq
      exact ⟨rfl, hchecks⟩

/-- A level without a name is reported, whatever the disabled names are. -/
theorem check_eq_error_of_level {c : Config}
    (h : ∀ level, Level.parse c.logging.level ≠ .ok level) :
    c.check = .error (Level.invalid c.logging.level) := by
  rw [check]
  unfold Level.parse at h ⊢
  cases hl : Level.ofText? c.logging.level with
  | none => rfl
  | some level =>
    rw [hl] at h
    exact absurd rfl (h level)

/-- Under a level that has a name, a blank disabled name is reported. -/
theorem check_eq_error_of_blank {c : Config}
    (hlevel : ∃ level, Level.parse c.logging.level = .ok level)
    (h : ∃ name ∈ c.registry.disabled, Text.trim name.toList = []) :
    c.check = .error blankDisabledName := by
  obtain ⟨level, hlevel⟩ := hlevel
  have hblank : c.registry.disabled.any Text.isAllBlank = true := by
    simpa [Text.isAllBlank] using h
  simp [check, hlevel, hblank]

/-- Settings that break a rule are reported by the rule. -/
theorem settle_eq_error_of_settled {winner : String → String → Option Value} {c : Config}
    (h : Settled winner c) {e : Error} (he : c.check = .error e) : settle winner = .error e := by
  rw [settle, (readWinning_eq_ok_iff winner c).mpr h]
  exact he

end StateHolders.Config

namespace StateHolders.Loader

open Config (Fields Sectioned Settled settings winning? environmentFields?)

variable {l : Loader} {w : World} {file environment : Fields}

/-- With a readable file and environment, loading comes to what the winning values come to. -/
theorem mapError_load (hfile : fileFields w (l.chosen w).1 = .ok file)
    (henv : environmentFields? l.prefixName w.environment = some environment)
    (hf : Sectioned file) (he : Sectioned environment) :
    (l.load w).mapError LoadFailure.toError = Config.settle (winning? file environment) := by
  rw [load, henv]
  dsimp only
  rw [hfile]
  exact Config.mapError_ofLayers hf he

/-- A configuration comes out exactly if the winning values settle it and it passes the checks. -/
theorem load_eq_ok_iff (hfile : fileFields w (l.chosen w).1 = .ok file)
    (henv : environmentFields? l.prefixName w.environment = some environment)
    (hf : Sectioned file) (he : Sectioned environment) (c : Config) :
    l.load w = .ok c ↔ Settled (winning? file environment) c ∧
      (∃ level, Level.parse c.logging.level = .ok level) ∧
      ∀ name ∈ c.registry.disabled, Text.trim name.toList ≠ [] := by
  rw [← Config.settle_eq_ok_iff, ← mapError_load hfile henv hf he]
  cases l.load w with
  | ok c' => simp [Except.mapError]
  | error f => simp [Except.mapError]

/-- What loading comes to is settled by the winning values: those of the environment, else those
of the file, else the defaults. A configuration comes out exactly if they can be read as it, its
level has a name, and no disabled name is blank; of these two rules the one about the level is
reported first. Two runs with the same winning values come to the same, whatever these values
override and whatever stands under other keys. -/
theorem load_settles_by_layer (hfile : fileFields w (l.chosen w).1 = .ok file)
    (henv : environmentFields? l.prefixName w.environment = some environment)
    (hf : Sectioned file) (he : Sectioned environment) :
    let winner := winning? file environment
    let reported := fun (l : Loader) (w : World) => (l.load w).mapError LoadFailure.toError
    (∀ c, l.load w = .ok c ↔ Settled winner c ∧
      (∃ level, Level.parse c.logging.level = .ok level) ∧
      ∀ name ∈ c.registry.disabled, Text.trim name.toList ≠ []) ∧
    (∀ c, Settled winner c → (∀ level, Level.parse c.logging.level ≠ .ok level) →
      reported l w = .error (Level.invalid c.logging.level)) ∧
    (∀ c, Settled winner c → (∃ level, Level.parse c.logging.level = .ok level) →
      (∃ name ∈ c.registry.disabled, Text.trim name.toList = []) →
      reported l w = .error Config.blankDisabledName) ∧
    ∀ (l' : Loader) (w' : World) (file' environment' : Fields),
      fileFields w' (l'.chosen w').1 = .ok file' →
      environmentFields? l'.prefixName w'.environment = some environment' →
      Sectioned file' → Sectioned environment' →
      (∀ setting ∈ settings,
        winning? file' environment' setting.1 setting.2 = winner setting.1 setting.2) →
      reported l' w' = reported l w := by
  intro winner reported
  have hload : reported l w = Config.settle winner := mapError_load hfile henv hf he
  refine ⟨load_eq_ok_iff hfile henv hf he, fun c hc hlevel => ?_, fun c hc hlevel hblank => ?_, ?_⟩
  · rw [hload]
    exact Config.settle_eq_error_of_settled hc (Config.check_eq_error_of_level hlevel)
  · rw [hload]
    exact Config.settle_eq_error_of_settled hc (Config.check_eq_error_of_blank hlevel hblank)
  · intro l' w' file' environment' hfile' henv' hf' he' hsame
    have hload' : reported l' w' = Config.settle (winning? file' environment') :=
      mapError_load hfile' henv' hf' he'
    rw [hload, hload', Config.settle_congr hsame]

/-- A later variable replaces what an earlier one gave to the whole part, but keeps what the file
gives to other settings. The level of the file, a number, is overridden, and does no harm. -/
theorem load_settles_by_layer_of_replaced_part :
    let text := "logging.level = 3\nlogging.json_format = true\n"
    let w : World :=
      ⟨[([[99]], .file (Text.utf8 text))], .root,
        [("VMF__LOGGING", "5"), ("vmf__logging__level", "Debug")], none⟩
    let l : Loader := ⟨some (Path.ofText "/c"), "VMF"⟩
    let file : Fields := [("logging", .table (.file "c")
      [("level", .scalar (.file "c") (.signed 3)),
        ("json_format", .scalar (.file "c") (.truth true))])]
    let environment : Fields := [("logging", .table (.environment "VMF__")
      [("level", .scalar (.environment "VMF__") (.text "Debug"))])]
    fileFields w (l.chosen w).1 = .ok file ∧
      environmentFields? l.prefixName w.environment = some environment ∧
      Sectioned file ∧ Sectioned environment ∧
      l.load w = .ok ⟨⟨"Debug", true, none⟩, .default⟩ := by
  intro text w l file environment
  have hfile : fileFields w (l.chosen w).1 = .ok file := by
    have hsearch : search w (Path.ofText "/c") = some (Path.ofText "/c", Text.utf8 text) := rfl
    have hshown : (Path.ofText "/c").shownFrom w.directory.place? = "c" := by cbv
    have hchosen : (l.chosen w).1 = some (Path.ofText "/c") := rfl
    have hparse : Toml.parse? text =
        some [("logging", .table [("level", .integer 3), ("json_format", .truth true)])] := by
      cbv
    rw [hchosen, fileFields, hsearch]
    dsimp only
    rw [hshown, documentFields, Text.ofUtf8?_utf8, Option.bind_some, hparse]
    rfl
  have henv : environmentFields? l.prefixName w.environment = some environment := by cbv
  have hsectioned (o : Config.Origin) (fields : Fields) :
      Sectioned [("logging", .table o fields)] := by
    intro part hpart v hv
    rcases List.mem_pair.mp hpart with rfl | rfl
    · exact ⟨o, fields, (Option.some.inj hv).symm⟩
    · cases hv
  obtain ⟨hload, -⟩ := load_settles_by_layer hfile henv (hsectioned _ _) (hsectioned _ _)
  refine ⟨hfile, henv, hsectioned _ _, hsectioned _ _, (hload _).mpr ⟨?_, ?_, ?_⟩⟩
  · exact ⟨⟨_, rfl⟩, ⟨_, rfl⟩, rfl, rfl, rfl⟩
  · exact ⟨.debug, by cbv⟩
  · exact List.forall_mem_nil _

end StateHolders.Loader
