import Mathlib.Data.List.Forall2
import StateHolders.Config.Reading

/-!
# How settings are read

The reader of a setting reads exactly the values that mean something for it, and refuses all tables
with one message. So it does not matter to a reader what a value was laid over: of layers over one
that says the default, the topmost value is read.
-/

namespace StateHolders.Config

/-! ## What a value says -/

/-- The value is this text. -/
def Value.IsText (v : Value) (s : String) : Prop := ∃ o, v = .scalar o (.text s)

/-- The value is this truth value. -/
def Value.IsTruth (v : Value) (b : Bool) : Prop := ∃ o, v = .scalar o (.truth b)

/-- The value is a text that spells the path. -/
def Value.IsPath (v : Value) (p : Option Path) : Prop := ∃ s, v.IsText s ∧ p = some (Path.ofText s)

/-- The value is a sequence of these texts. -/
def Value.IsTexts (v : Value) (names : List String) : Prop :=
  ∃ o items, v = .list o items ∧ List.Forall₂ Value.IsText items names

/-- The setting is what the winning value says, or the default if nothing sets it. -/
def Settles {α : Type} (means : Value → α → Prop) (default : α) : Option Value → α → Prop
  | none, a => a = default
  | some v, a => means v a

/-- The logging part is what is stated for its settings. -/
structure SettlesLogging (stated : String → Option Value) (c : LoggingConfig) : Prop where
  /-- The level is a text. -/
  level : Settles Value.IsText Config.default.logging.level (stated "level") c.level
  /-- Whether lines are records is a truth value. -/
  jsonFormat : Settles Value.IsTruth Config.default.logging.jsonFormat
    (stated "json_format") c.jsonFormat
  /-- The log file is a path. -/
  fileOutput : Settles Value.IsPath Config.default.logging.fileOutput
    (stated "file_output") c.fileOutput

/-- The registry part is what is stated for its settings. -/
structure SettlesRegistry (stated : String → Option Value) (c : RegistryConfig) : Prop where
  /-- Whether holders on offer are registered is a truth value. -/
  discover : Settles Value.IsTruth Config.default.registry.discover (stated "discover") c.discover
  /-- The disabled names are a sequence of texts. -/
  disabled : Settles Value.IsTexts Config.default.registry.disabled (stated "disabled") c.disabled

/-- Each setting of the configuration is what its winning value says. -/
structure Settled (winner : String → String → Option Value) (c : Config) : Prop where
  /-- The level is a text. -/
  level : Settles Value.IsText Config.default.logging.level
    (winner "logging" "level") c.logging.level
  /-- Whether lines are records is a truth value. -/
  jsonFormat : Settles Value.IsTruth Config.default.logging.jsonFormat
    (winner "logging" "json_format") c.logging.jsonFormat
  /-- The log file is a path. -/
  fileOutput : Settles Value.IsPath Config.default.logging.fileOutput
    (winner "logging" "file_output") c.logging.fileOutput
  /-- Whether holders on offer are registered is a truth value. -/
  discover : Settles Value.IsTruth Config.default.registry.discover
    (winner "registry" "discover") c.registry.discover
  /-- The disabled names are a sequence of texts. -/
  disabled : Settles Value.IsTexts Config.default.registry.disabled
    (winner "registry" "disabled") c.registry.disabled

/-- A configuration is settled part by part. -/
theorem settled_iff {winner : String → String → Option Value} {c : Config} :
    Settled winner c ↔ SettlesLogging (winner "logging") c.logging ∧
      SettlesRegistry (winner "registry") c.registry := by
  constructor
  · intro h
    exact ⟨⟨h.level, h.jsonFormat, h.fileOutput⟩, ⟨h.discover, h.disabled⟩⟩
  · rintro ⟨hlogging, hregistry⟩
    exact ⟨hlogging.level, hlogging.jsonFormat, hlogging.fileOutput, hregistry.discover,
      hregistry.disabled⟩

/-! ## Readings that are reported alike -/

/-- Two readings have one outcome, or fail with one message. -/
def Alike {α : Type} (x y : Except Mismatch α) : Prop :=
  x.mapError Mismatch.message = y.mapError Mismatch.message

namespace Alike

variable {α β : Type} {x y : Except Mismatch α}

theorem refl (x : Except Mismatch α) : Alike x x := rfl

/-- One succeeds exactly as the other does. -/
theorem eq_ok_iff (h : Alike x y) (a : α) : x = .ok a ↔ y = .ok a := by
  cases x <;> cases y <;> simp_all [Alike, Except.mapError]

/-- Readings that are alike can go on alike. -/
theorem bind (h : Alike x y) {f g : α → Except Mismatch β} (hfg : ∀ a, Alike (f a) (g a)) :
    Alike (x >>= f) (y >>= g) := by
  cases x with
  | ok a =>
    have hy : y = .ok a := (h.eq_ok_iff a).mp rfl
    rw [hy]
    exact hfg a
  | error m =>
    cases y with
    | ok a => cases h
    | error m' => exact congrArg Except.error (Except.error.inj h)

end Alike

theorem bind_eq_ok_iff {α β : Type} {x : Except Mismatch α} {f : α → Except Mismatch β} {b : β} :
    x >>= f = .ok b ↔ ∃ a, x = .ok a ∧ f a = .ok b := by
  cases x with
  | error m => simp [bind, Except.bind]
  | ok a => simp [bind, Except.bind]

/-! ## The readers of single settings -/

/-- The reader reads exactly the values that mean something, and refuses every table with the same
message. -/
structure Reads {α : Type} (read : Reader α) (means : Value → α → Prop) : Prop where
  /-- What is read is what the value means. -/
  ok_iff : ∀ keys v a, read keys v = .ok a ↔ means v a
  /-- The fields of a table make no difference. -/
  tables : ∀ keys o fields fields',
    Alike (read keys (.table o fields)) (read keys (.table o fields'))

theorem reads_text : Reads readText Value.IsText where
  ok_iff keys v s := by
    constructor
    · intro h
      unfold readText at h
      split at h
      · exact ⟨_, by rw [Except.ok.inj h]⟩
      · cases h
    · rintro ⟨o, rfl⟩
      rfl
  tables _ _ _ _ := rfl

theorem reads_truth : Reads readTruth Value.IsTruth where
  ok_iff keys v b := by
    constructor
    · intro h
      unfold readTruth at h
      split at h
      · exact ⟨_, by rw [Except.ok.inj h]⟩
      · cases h
    · rintro ⟨o, rfl⟩
      rfl
  tables _ _ _ _ := rfl

theorem reads_path : Reads readPath Value.IsPath where
  ok_iff keys v p := by
    constructor
    · intro h
      unfold readPath at h
      split at h
      · exact ⟨_, ⟨_, rfl⟩, (Except.ok.inj h).symm⟩
      · cases h
    · rintro ⟨s, ⟨o, rfl⟩, rfl⟩
      rfl
  tables _ _ _ _ := rfl

theorem readItems_eq_ok_iff (keys : List String) (position : Nat) (items : List Value)
    (names : List String) :
    readItems keys position items = .ok names ↔ List.Forall₂ Value.IsText items names := by
  induction items generalizing position names with
  | nil => simp [readItems, eq_comm]
  | cons v rest ih =>
    have hfirst := reads_text.ok_iff (keys ++ [toString position]) v
    rw [readItems, List.forall₂_cons_left_iff]
    cases hv : readText (keys ++ [toString position]) v with
    | error m =>
      -- A first item that is no text rules both sides out.
      have hnot (s : String) : ¬v.IsText s := fun hs => by
        rw [(hfirst s).mpr hs] at hv
        cases hv
      simp [hnot]
    | ok s =>
      have hs (t : String) : v.IsText t ↔ s = t := by
        rw [← hfirst, hv, Except.ok.injEq]
      cases hrest : readItems keys (position + 1) rest with
      | error m => simp [← ih (position + 1), hrest, Except.map]
      | ok texts => simp [hs, ← ih (position + 1), hrest, Except.map, eq_comm]

theorem reads_texts : Reads readTexts Value.IsTexts where
  ok_iff keys v names := by
    constructor
    · intro h
      unfold readTexts at h
      split at h
      · exact ⟨_, _, rfl, (readItems_eq_ok_iff _ _ _ _).mp h⟩
      · cases h
    · rintro ⟨o, items, rfl, h⟩
      exact (readItems_eq_ok_iff _ _ _ _).mpr h
  tables _ _ _ _ := rfl

/-! ## Values that are laid over others -/

/-- A value that may be there laid over another that may be there. -/
def lay (base : Option Value) : Option Value → Option Value
  | some v => some (Value.ontoField base v)
  | none => base

theorem get?_fieldsOnto_eq_lay (k : String) (base later : Fields) :
    Dictionary.get? k (Value.fieldsOnto base later) =
      lay (Dictionary.get? k base) (Dictionary.get? k later) := by
  rw [Value.get?_fieldsOnto]
  cases Dictionary.get? k later with
  | none => rfl
  | some v => rfl

@[simp] theorem ontoField_scalar (base : Option Value) (o : Origin) (s : Scalar) :
    Value.ontoField base (.scalar o s) = .scalar o s := by
  cases base <;> simp [Value.ontoField, Value.onto]

@[simp] theorem ontoField_list (base : Option Value) (o : Origin) (items : List Value) :
    Value.ontoField base (.list o items) = .list o items := by
  cases base <;> simp [Value.ontoField, Value.onto]

/-- A table stays a table, whatever it is laid over; its keys are laid over those of a table. -/
theorem exists_ontoField_table (base : Option Value) (o : Origin) (fields : Fields) :
    ∃ merged, Value.ontoField base (.table o fields) = .table o merged ∧
      ∀ key, Dictionary.get? key merged =
        lay (base.bind (Value.field? key)) (Dictionary.get? key fields) := by
  have hover : ∀ key, Dictionary.get? key fields = lay none (Dictionary.get? key fields) := by
    intro key
    cases Dictionary.get? key fields with
    | none => rfl
    | some v => rw [lay, Value.ontoField]
  cases base with
  | none => exact ⟨fields, by rw [Value.ontoField], hover⟩
  | some old =>
    cases old with
    | scalar o' s => exact ⟨fields, by simp [Value.ontoField, Value.onto], hover⟩
    | list o' items => exact ⟨fields, by simp [Value.ontoField, Value.onto], hover⟩
    | table o' below =>
      exact ⟨Value.fieldsOnto below fields, by rw [Value.ontoField, Value.onto],
        fun key => get?_fieldsOnto_eq_lay key below fields⟩

namespace Reads

variable {α : Type} {read : Reader α} {means : Value → α → Prop} {default a : α}
variable {base saved file environment later : Option Value}

/-- What a value was laid over does not matter to a reader. -/
theorem alike_ontoField (h : Reads read means) (keys : List String) (base : Option Value)
    (v : Value) : Alike (read keys (Value.ontoField base v)) (read keys v) := by
  cases v with
  | scalar o s => rw [ontoField_scalar]; exact .refl _
  | list o items => rw [ontoField_list]; exact .refl _
  | table o fields =>
    obtain ⟨merged, hmerged, -⟩ := exists_ontoField_table base o fields
    rw [hmerged]
    exact h.tables keys o merged fields

/-- What a value says does not depend on what it is laid over. -/
theorem means_ontoField_iff (h : Reads read means) (base : Option Value) (v : Value) (a : α) :
    means (Value.ontoField base v) a ↔ means v a := by
  rw [← h.ok_iff [], ← h.ok_iff []]
  exact (h.alike_ontoField [] base v).eq_ok_iff a

/-- A setting that may be missing is read as its winning value settles it. -/
theorem readOr_eq_ok_iff (h : Reads read means) (default : α) (keys : List String)
    (winner : Option Value) (a : α) :
    readOr default read keys winner = .ok a ↔ Settles means default winner a := by
  cases winner with
  | none => simp [readOr, Settles, eq_comm]
  | some v => exact h.ok_iff keys v a

/-- Of three layers, of which the lowest says the default, the topmost value is read. -/
theorem alike_readOr (h : Reads read means) (keys : List String)
    (hbase : Settles means default base default) :
    Alike (readOr default read keys (lay (lay base file) environment))
      (readOr default read keys (environment.or file)) := by
  cases environment with
  | some v => exact h.alike_ontoField keys _ v
  | none =>
    cases file with
    | some v => exact h.alike_ontoField keys _ v
    | none =>
      rw [lay, lay, (h.readOr_eq_ok_iff default keys base default).mpr hbase]
      exact .refl _

/-- What a layer settles it settles over the default, too. -/
theorem settles_lay_default (h : Reads read means) (hbase : Settles means default base default)
    (hlater : Settles means default later a) : Settles means default (lay base later) a := by
  cases later with
  | none =>
    obtain rfl : a = default := hlater
    exact hbase
  | some v => exact (h.means_ontoField_iff base v a).mpr hlater

/-- A setting that came out under a layer comes out again if it takes the place of what was below
that layer. -/
theorem settles_lay_again (h : Reads read means)
    (hlater : Settles means default (lay base later) a) (hsaved : Settles means default saved a) :
    Settles means default (lay saved later) a := by
  cases later with
  | none => exact hsaved
  | some v =>
    have hv : means v a := (h.means_ontoField_iff base v a).mp hlater
    exact (h.means_ontoField_iff saved v a).mpr hv

end Reads

/-! ## The readers of the two parts -/

/-- Reads the logging part from what is stated for its settings, in the order of a table. -/
def readLoggingFrom (keys : List String) (stated : String → Option Value) :
    Except Mismatch LoggingConfig := do
  let default := LoggingConfig.default
  let fileOutput ← readOr default.fileOutput readPath (keys ++ ["file_output"])
    (stated "file_output")
  let jsonFormat ← readOr default.jsonFormat readTruth (keys ++ ["json_format"])
    (stated "json_format")
  let level ← readOr default.level readText (keys ++ ["level"]) (stated "level")
  return ⟨level, jsonFormat, fileOutput⟩

/-- Reads the registry part from what is stated for its settings, in the order of a table. -/
def readRegistryFrom (keys : List String) (stated : String → Option Value) :
    Except Mismatch RegistryConfig := do
  let default := RegistryConfig.default
  let disabled ← readOr default.disabled readTexts (keys ++ ["disabled"]) (stated "disabled")
  let discover ← readOr default.discover readTruth (keys ++ ["discover"]) (stated "discover")
  return ⟨discover, disabled⟩

variable {keys : List String} {o : Origin} {fields : Fields}

theorem readLogging_table :
    readLogging keys (.table o fields) =
      readLoggingFrom keys fun key => Dictionary.get? key fields := rfl

theorem readRegistry_table :
    readRegistry keys (.table o fields) =
      readRegistryFrom keys fun key => Dictionary.get? key fields := rfl

variable {stated : String → Option Value}

theorem readLoggingFrom_eq_ok_iff (c : LoggingConfig) :
    readLoggingFrom keys stated = .ok c ↔ SettlesLogging stated c := by
  simp only [readLoggingFrom, bind_eq_ok_iff, reads_path.readOr_eq_ok_iff,
    reads_truth.readOr_eq_ok_iff, reads_text.readOr_eq_ok_iff, pure, Except.pure, Except.ok.injEq]
  constructor
  · rintro ⟨fileOutput, hf, jsonFormat, hj, level, hl, rfl⟩
    exact ⟨hl, hj, hf⟩
  · intro h
    exact ⟨_, h.fileOutput, _, h.jsonFormat, _, h.level, rfl⟩

theorem readRegistryFrom_eq_ok_iff (c : RegistryConfig) :
    readRegistryFrom keys stated = .ok c ↔ SettlesRegistry stated c := by
  simp only [readRegistryFrom, bind_eq_ok_iff, reads_truth.readOr_eq_ok_iff,
    reads_texts.readOr_eq_ok_iff, pure, Except.pure, Except.ok.injEq]
  constructor
  · rintro ⟨disabled, hd, discover, hi, rfl⟩
    exact ⟨hi, hd⟩
  · intro h
    exact ⟨_, h.disabled, _, h.discover, rfl⟩

variable {base file environment later : String → Option Value}

/-- Of three layers of a logging part, of which the lowest says the default, the topmost values are
read. -/
theorem alike_readLoggingFrom (hbase : SettlesLogging base Config.default.logging) :
    Alike (readLoggingFrom keys fun key => lay (lay (base key) (file key)) (environment key))
      (readLoggingFrom keys fun key => (environment key).or (file key)) := by
  refine Alike.bind (reads_path.alike_readOr _ hbase.fileOutput) fun _ => ?_
  refine Alike.bind (reads_truth.alike_readOr _ hbase.jsonFormat) fun _ => ?_
  exact Alike.bind (reads_text.alike_readOr _ hbase.level) fun _ => .refl _

/-- Of three layers of a registry part, of which the lowest says the default, the topmost values are
read. -/
theorem alike_readRegistryFrom (hbase : SettlesRegistry base Config.default.registry) :
    Alike (readRegistryFrom keys fun key => lay (lay (base key) (file key)) (environment key))
      (readRegistryFrom keys fun key => (environment key).or (file key)) := by
  refine Alike.bind (reads_texts.alike_readOr _ hbase.disabled) fun _ => ?_
  exact Alike.bind (reads_truth.alike_readOr _ hbase.discover) fun _ => .refl _

/-- What a layer settles of the logging part it settles over the default, too. -/
theorem SettlesLogging.lay_default {c : LoggingConfig}
    (hbase : SettlesLogging base Config.default.logging) (hlater : SettlesLogging later c) :
    SettlesLogging (fun key => lay (base key) (later key)) c where
  level := reads_text.settles_lay_default hbase.level hlater.level
  jsonFormat := reads_truth.settles_lay_default hbase.jsonFormat hlater.jsonFormat
  fileOutput := reads_path.settles_lay_default hbase.fileOutput hlater.fileOutput

/-- What a layer settles of the registry part it settles over the default, too. -/
theorem SettlesRegistry.lay_default {c : RegistryConfig}
    (hbase : SettlesRegistry base Config.default.registry) (hlater : SettlesRegistry later c) :
    SettlesRegistry (fun key => lay (base key) (later key)) c where
  discover := reads_truth.settles_lay_default hbase.discover hlater.discover
  disabled := reads_texts.settles_lay_default hbase.disabled hlater.disabled

end StateHolders.Config
