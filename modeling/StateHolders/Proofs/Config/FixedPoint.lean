import StateHolders.Proofs.Config.Saving

/-!
# Saving what was loaded

A configuration that was loaded can be saved, and loading it again under the same environment gives
the same configuration. The environment is laid over the saved file as it was laid over the layers
that the configuration came from: what it gives it gives again, and what it leaves open it finds in
the file. Parts that are sequences, which replace whole parts below them, are no exception.
-/

namespace StateHolders.Config

/-! ## What a part states -/

/-- The keys of a part, in the order in which they are declared. -/
def declared (part : String) : List String :=
  (settings.filter fun setting => setting.1 == part).map Prod.snd

/-- What the value of a part states for a setting: a field of a table, or the item of a sequence
that stands where the setting is declared. -/
def Value.stated? (part key : String) : Value → Option Value
  | .table _ fields => Dictionary.get? key fields
  | .list _ items => items[(declared part).idxOf key]?
  | .scalar _ _ => none

/-- What a layer states for a setting. -/
def stated? (layer : Fields) (part key : String) : Option Value :=
  (Dictionary.get? part layer).bind (Value.stated? part key)

/-- The value is not a single setting. -/
def Value.IsPart (v : Value) : Prop := ∀ o s, v ≠ .scalar o s

/-- The reader reads a part as what is stated for its settings, and refuses single settings. -/
structure ReadsStated {α : Type} (read : Reader α) (part : String) (default : α)
    (settles : (String → Option Value) → α → Prop) : Prop where
  /-- Where nothing is stated, the part is the default. -/
  missing : ∀ a, settles (fun _ => none) a ↔ default = a
  /-- A single setting is not read. -/
  scalar : ∀ keys o s a, read keys (.scalar o s) ≠ .ok a
  /-- A sequence is read as what it states. -/
  list : ∀ keys o items a, read keys (.list o items) = .ok a ↔
    settles (fun key => (Value.list o items).stated? part key) a
  /-- A table is read as what it states. -/
  table : ∀ keys o fields a, read keys (.table o fields) = .ok a ↔
    settles (fun key => (Value.table o fields).stated? part key) a

theorem readsStated_readLogging :
    ReadsStated readLogging "logging" .default SettlesLogging where
  missing a := by
    constructor
    · rintro ⟨hl, hj, hf⟩
      cases a
      cases hl
      cases hj
      cases hf
      rfl
    · rintro rfl
      exact ⟨rfl, rfl, rfl⟩
  scalar keys o s a h := by cases h
  list keys o items a := by
    simp only [readLogging, readAt, bind_eq_ok_iff, reads_text.readOr_eq_ok_iff,
      reads_truth.readOr_eq_ok_iff, reads_path.readOr_eq_ok_iff, pure, Except.pure,
      Except.ok.injEq]
    constructor
    · rintro ⟨_, hl, _, hj, _, hf, rfl⟩
      exact ⟨hl, hj, hf⟩
    · rintro ⟨hl, hj, hf⟩
      exact ⟨_, hl, _, hj, _, hf, rfl⟩
  table keys o fields a := by
    rw [readLogging_table]
    exact readLoggingFrom_eq_ok_iff a

theorem readsStated_readRegistry :
    ReadsStated readRegistry "registry" .default SettlesRegistry where
  missing a := by
    constructor
    · rintro ⟨hi, hd⟩
      cases a
      cases hi
      cases hd
      rfl
    · rintro rfl
      exact ⟨rfl, rfl⟩
  scalar keys o s a h := by cases h
  list keys o items a := by
    simp only [readRegistry, readAt, bind_eq_ok_iff, reads_truth.readOr_eq_ok_iff,
      reads_texts.readOr_eq_ok_iff, pure, Except.pure, Except.ok.injEq]
    constructor
    · rintro ⟨_, hi, _, hd, rfl⟩
      exact ⟨hi, hd⟩
    · rintro ⟨hi, hd⟩
      exact ⟨_, hi, _, hd, rfl⟩
  table keys o fields a := by
    rw [readRegistry_table]
    exact readRegistryFrom_eq_ok_iff a

/-- A part of a layer is read exactly as what it states, unless it is a single setting. -/
theorem ReadsStated.readField_eq_ok_iff {α : Type} {read : Reader α} {part : String} {default : α}
    {settles : (String → Option Value) → α → Prop} (h : ReadsStated read part default settles)
    (keys : List String) (layer : Fields) (a : α) :
    readField default read keys part layer = .ok a ↔
      (∀ v, Dictionary.get? part layer = some v → v.IsPart) ∧ settles (stated? layer part) a := by
  unfold readField stated?
  cases Dictionary.get? part layer with
  | none => simp [readOr, ← h.missing, Option.bind_none]
  | some v =>
    cases v with
    | scalar o s => simp [readOr, Value.IsPart, h.scalar]
    | list o items => simp [readOr, Value.IsPart, h.list]
    | table o fields => simp [readOr, Value.IsPart, h.table]

/-- A layer is read exactly as what its parts state. -/
theorem ofFields_eq_ok_iff (layer : Fields) (c : Config) :
    ofFields layer = .ok c ↔
      (∀ part ∈ ["logging", "registry"], ∀ v, Dictionary.get? part layer = some v → v.IsPart) ∧
      Settled (stated? layer) c := by
  simp only [ofFields, bind_eq_ok_iff, readsStated_readLogging.readField_eq_ok_iff,
    readsStated_readRegistry.readField_eq_ok_iff, settled_iff, pure, Except.pure, Except.ok.injEq]
  constructor
  · rintro ⟨logging, ⟨hlogging, hl⟩, registry, ⟨hregistry, hr⟩, rfl⟩
    refine ⟨?_, hl, hr⟩
    intro part hpart
    rcases List.mem_pair.mp hpart with rfl | rfl
    · exact hlogging
    · exact hregistry
  · rintro ⟨hparts, hl, hr⟩
    exact ⟨_, ⟨hparts "logging" (by simp), hl⟩, _, ⟨hparts "registry" (by simp), hr⟩, rfl⟩

/-! ## Parts that are laid over others -/

/-- A setting of a part that came out under a layer comes out again if a table with the setting
takes the place of what was below the part. A sequence in the layer states all settings of the part
itself. -/
theorem Reads.settles_stated?_again {α : Type} {read : Reader α} {means : Value → α → Prop}
    {default a : α} (h : Reads read means)
    {below table layer : Fields} {part key : String} {o : Origin} {fields : Fields}
    (htable : Dictionary.get? part table = some (.table o fields))
    (hbelow : Settles means default (stated? (Value.fieldsOnto below layer) part key) a)
    (hkey : Settles means default (Dictionary.get? key fields) a) :
    Settles means default (stated? (Value.fieldsOnto table layer) part key) a := by
  unfold stated? at hbelow ⊢
  rw [get?_fieldsOnto_eq_lay] at hbelow ⊢
  rw [htable]
  cases hv : Dictionary.get? part layer with
  | none => exact hkey
  | some v =>
    rw [hv] at hbelow
    cases v with
    | scalar o' s => simpa only [lay, ontoField_scalar] using hbelow
    | list o' items => simpa only [lay, ontoField_list] using hbelow
    | table o' fields' =>
      obtain ⟨old, hold, hkeys⟩ := exists_ontoField_table (Dictionary.get? part below) o' fields'
      obtain ⟨new, hnew, hkeys'⟩ := exists_ontoField_table (some (.table o fields)) o' fields'
      simp only [lay, hold, Option.bind_some, Value.stated?, hkeys] at hbelow
      simp only [lay, hnew, Option.bind_some, Value.stated?, hkeys', Value.field?]
      exact h.settles_lay_again hbelow hkey

/-! ## The saved configuration below the same environment -/

/-- The layer of a configuration over the defaults has both parts as tables, and these settle every
setting as the configuration has it. -/
theorem exists_parts_layer (o : Origin) {c : Config} {fileText : Option String}
    (hfile : LoggingConfig.fileText? c.logging = some fileText) :
    ∃ o₁ logging o₂ registry,
      Dictionary.get? "logging" (Value.fieldsOnto (toFields .defaults Config.default)
        (c.layer o fileText)) = some (.table o₁ logging) ∧
      Dictionary.get? "registry" (Value.fieldsOnto (toFields .defaults Config.default)
        (c.layer o fileText)) = some (.table o₂ registry) ∧
      SettlesLogging (fun key => Dictionary.get? key logging) c.logging ∧
      SettlesRegistry (fun key => Dictionary.get? key registry) c.registry := by
  obtain ⟨logging, registry, hlogging, hregistry, hl, hr⟩ := exists_parts_defaults
  obtain ⟨hlayer, hlayer'⟩ := settled_iff.mp (settled_layer o hfile)
  have hsectioned := c.sectioned_layer o fileText
  obtain ⟨o₁, logging', hlogging', hkeys⟩ :=
    get?_part_fieldsOnto hlogging (hsectioned "logging" (by simp))
  obtain ⟨o₂, registry', hregistry', hkeys'⟩ :=
    get?_part_fieldsOnto hregistry (hsectioned "registry" (by simp))
  refine ⟨o₁, logging', o₂, registry', hlogging', hregistry', ?_, ?_⟩
  · rw [funext hkeys]
    exact hl.lay_default hlayer
  · rw [funext hkeys']
    exact hr.lay_default hlayer'

/-- A part that is laid over a table is a part if it is one over something else. -/
theorem isPart_over_table {below table layer : Fields} {part : String} {o : Origin}
    {fields : Fields} (htable : Dictionary.get? part table = some (.table o fields))
    (hbelow : ∀ v, Dictionary.get? part (Value.fieldsOnto below layer) = some v → v.IsPart) :
    ∀ v, Dictionary.get? part (Value.fieldsOnto table layer) = some v → v.IsPart := by
  rw [get?_fieldsOnto_eq_lay] at hbelow ⊢
  rw [htable]
  rintro v hv o' s rfl
  cases hlayer : Dictionary.get? part layer with
  | none =>
    rw [hlayer] at hv
    cases hv
  | some w =>
    rw [hlayer] at hv hbelow
    cases w with
    | scalar o'' s' => exact hbelow _ rfl o'' s' (ontoField_scalar _ _ _)
    | list o'' items => simp [lay] at hv
    | table o'' fields' =>
      obtain ⟨merged, hmerged, -⟩ := exists_ontoField_table (some (.table o fields)) o'' fields'
      simp [lay, hmerged] at hv

variable {file environment : Fields} {c : Config}

/-- A configuration that was read from layers is read again if its own layer takes the place of the
file. -/
theorem ofFields_merged_layer (o : Origin) {fileText : Option String}
    (hfile : LoggingConfig.fileText? c.logging = some fileText)
    (h : ofFields (merged file environment) = .ok c) :
    ofFields (merged (c.layer o fileText) environment) = .ok c := by
  rw [merged, ofFields_eq_ok_iff] at h ⊢
  obtain ⟨hparts, h⟩ := h
  obtain ⟨o₁, logging, o₂, registry, hlogging, hregistry, hl, hr⟩ := exists_parts_layer o hfile
  refine ⟨?_, ⟨?_, ?_, ?_, ?_, ?_⟩⟩
  · intro part hpart
    rcases List.mem_pair.mp hpart with rfl | rfl
    · exact isPart_over_table hlogging (hparts _ hpart)
    · exact isPart_over_table hregistry (hparts _ hpart)
  · exact reads_text.settles_stated?_again hlogging h.level hl.level
  · exact reads_truth.settles_stated?_again hlogging h.jsonFormat hl.jsonFormat
  · exact reads_path.settles_stated?_again hlogging h.fileOutput hl.fileOutput
  · exact reads_truth.settles_stated?_again hregistry h.discover hr.discover
  · exact reads_texts.settles_stated?_again hregistry h.disabled hr.disabled

/-- A configuration that was read from layers can be written: a path that was read is a text. -/
theorem exists_fileText_of_settled {winner : String → String → Option Value}
    (h : Settled winner c) : ∃ fileText, LoggingConfig.fileText? c.logging = some fileText := by
  refine exists_fileText fun f hf => ?_
  have hpath := h.fileOutput
  rw [hf] at hpath
  cases hwinner : winner "logging" "file_output" with
  | none =>
    rw [hwinner] at hpath
    cases hpath
  | some v =>
    rw [hwinner] at hpath
    obtain ⟨s, -, heq⟩ := hpath
    obtain rfl := Option.some.inj heq
    exact ⟨s, Text.ofUtf8?_utf8 s⟩

/-- Layers give a configuration exactly if it is read from them and passes the checks. -/
theorem ofLayers_eq_ok_iff (file environment : Fields) (c : Config) :
    ofLayers file environment = .ok c ↔
      ofFields (merged file environment) = .ok c ∧ c.check = .ok c := by
  rw [ofLayers, ← merged]
  cases ofFields (merged file environment) with
  | error m => simp
  | ok c' =>
    dsimp only
    cases hcheck : c'.check with
    | error e =>
      simp only [reduceCtorEq, false_iff]
      rintro ⟨heq, hpass⟩
      obtain rfl := Except.ok.inj heq
      rw [hcheck] at hpass
      cases hpass
    | ok c'' =>
      obtain rfl : c' = c'' := ((check_eq_ok_iff c' c'').mp hcheck).1
      constructor
      · intro heq
        obtain rfl := Except.ok.inj heq
        exact ⟨rfl, hcheck⟩
      · rintro ⟨heq, -⟩
        obtain rfl := Except.ok.inj heq
        rfl

end StateHolders.Config

namespace StateHolders.Loader

variable {l : Loader} {w : World} {c : Config}

/-- What loading comes to, layer by layer. -/
theorem load_eq_ok_iff_ofLayers :
    l.load w = .ok c ↔ ∃ environment file,
      Config.environmentFields? l.prefixName w.environment = some environment ∧
      fileFields w (l.chosen w).1 = .ok file ∧ Config.ofLayers file environment = .ok c := by
  rw [load]
  cases Config.environmentFields? l.prefixName w.environment with
  | none => simp
  | some environment =>
    cases fileFields w (l.chosen w).1 with
    | error e => simp
    | ok file => simp

/-- A configuration that was loaded, in whatever way, can be saved to every path at which a file
can be written, and loading it by this path under the same prefix and environment gives it again. A
relative path is looked up from the path of the working directory, and so has to name the same file
when it is seen from there. -/
theorem load_again_after_save (l : Loader) (w : World) (c : Config) (h : l.load w = .ok c)
    (p : Path) (place : Location) (hplace : w.target p = .ok place)
    (hseen : p.isAbsolute = true ∨ ∃ here, w.directory.place? = some here ∧
      w.target ((Path.ofLocation here).join p) = .ok place) :
    ∃ w', c.save w p = (w', .ok ()) ∧ w'.environment = w.environment ∧
      load ⟨some p, l.prefixName⟩ w' = .ok c := by
  obtain ⟨environment, file, henv, -, hlayers⟩ := load_eq_ok_iff_ofLayers.mp h
  obtain ⟨hread, hcheck⟩ := (Config.ofLayers_eq_ok_iff file environment c).mp hlayers
  obtain ⟨fileText, hfile⟩ :=
    Config.exists_fileText_of_settled ((Config.ofFields_eq_ok_iff _ c).mp hread).2
  obtain ⟨o, hfields⟩ := fileFields_saved (c := c) l.prefixName hplace hseen
  refine ⟨_, Config.save_of_target hfile hplace, rfl, ?_⟩
  refine load_eq_ok_iff_ofLayers.mpr ⟨environment, _, henv, hfields, ?_⟩
  exact (Config.ofLayers_eq_ok_iff _ environment c).mpr
    ⟨Config.ofFields_merged_layer o hfile hread, hcheck⟩

/-- The logging part is a sequence in the environment, and a disabled name is a quotation mark. Both
come back from a file that is saved under a relative path. -/
theorem load_again_after_save_of_sequence :
    let w : World := ⟨[([[101]], .directory)], ⟨[[101]], 0⟩,
      [("VMF__LOGGING", "[Debug]"), ("vmf__registry.disabled", "['\"', x]")], none⟩
    let c : Config := ⟨⟨"Debug", false, none⟩, ⟨true, ["\"", "x"]⟩⟩
    let p := Path.ofText "c"
    Loader.default.load w = .ok c ∧ w.target p = .ok [[101], [99]] ∧
      w.directory.place? = some [[101]] ∧
      w.target ((Path.ofLocation [[101]]).join p) = .ok [[101], [99]] ∧
      ∃ w', c.save w p = (w', .ok ()) ∧ w'.environment = w.environment ∧
        load ⟨some p, "VMF"⟩ w' = .ok c := by
  intro w c p
  have hload : Loader.default.load w = .ok c := by cbv
  have hplace : w.target p = .ok [[101], [99]] := by rfl
  have hlocate : w.locate (Path.ofLocation [[101]]) = .ok (w.directory, .directory) := by rfl
  have hjoin : w.target ((Path.ofLocation [[101]]).join p) = .ok [[101], [99]] :=
    World.target_join hlocate rfl rfl (by decide) hplace
  exact ⟨hload, hplace, rfl, hjoin,
    load_again_after_save Loader.default w c hload p _ hplace (.inr ⟨_, rfl, hjoin⟩)⟩

/-- From a working directory that was removed, a configuration can be loaded by an absolute path and
saved by a relative one, but loading it by the relative path gives the defaults. -/
theorem not_load_again_in_removed_directory :
    let c : Config := ⟨⟨"debug", false, none⟩, .default⟩
    let before : World := ⟨[([Path.ofText "gone"], .directory),
      ([Path.ofText "c.toml"], .file (c.written none))], ⟨[Path.ofText "gone"], 0⟩, [], none⟩
    let w : World := ⟨[([Path.ofText "c.toml"], .file (c.written none))], ⟨[], 1⟩, [], none⟩
    let l : Loader := ⟨some (Path.ofText "/c.toml"), "VMF"⟩
    let p := Path.ofText "../out.toml"
    before.removeDirectory? (Path.ofText "/gone") = some w ∧ l.load w = .ok c ∧
      w.target p = .ok [Path.ofText "out.toml"] ∧
      ∃ w', c.save w p = (w', .ok ()) ∧ w'.environment = w.environment ∧
        load ⟨some p, "VMF"⟩ w' = .ok .default ∧ Config.default ≠ c := by
  intro c before w l p
  have hplace : w.target p = .ok [Path.ofText "out.toml"] := by rfl
  have hcontent : w.content? (Path.ofText "/c.toml") = some (c.written none) := rfl
  obtain ⟨_, hfields⟩ := exists_fileFields_of_written "VMF" hcontent (.inl rfl)
  have hload : l.load w = .ok c :=
    load_eq_ok_of_layer rfl hfields rfl ⟨.debug, by cbv⟩ (List.forall_mem_nil _)
  exact ⟨by rfl, hload, hplace, _, Config.save_of_target rfl hplace, rfl,
    load_eq_default_of_removed "VMF" rfl rfl rfl, by decide⟩

end StateHolders.Loader
