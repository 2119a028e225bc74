import StateHolders.Proofs.Config.Layers

/-!
# Where values come from

Every value of a layer carries its origin, and only the report of a value of the wrong kind shows
it. So the origins of the values can be changed at any point, before or after a document is taken
for a layer, layers are laid over each other, or a configuration is read: the outcome is the same,
but for the value that a mismatch reports.
-/

namespace StateHolders.Config

/-! ## Values with other origins -/

section Values

variable (f : Origin → Origin)

mutual

/-- The value with its origin changed, and those of all values in it. -/
def Value.mapOrigin : Value → Value
  | .scalar o s => .scalar (f o) s
  | .list o items => .list (f o) (itemsMapOrigin items)
  | .table o fields => .table (f o) (fieldsMapOrigin fields)

/-- The items with their origins changed. -/
def itemsMapOrigin : List Value → List Value
  | [] => []
  | v :: rest => v.mapOrigin :: itemsMapOrigin rest

/-- The fields with the origins of their values changed. -/
def fieldsMapOrigin : Fields → Fields
  | [] => []
  | (k, v) :: rest => (k, v.mapOrigin) :: fieldsMapOrigin rest

end

@[simp] theorem getElem?_itemsMapOrigin (items : List Value) (position : Nat) :
    (itemsMapOrigin f items)[position]? = items[position]?.map (Value.mapOrigin f) := by
  induction items generalizing position with
  | nil => simp [itemsMapOrigin]
  | cons v rest ih =>
    cases position with
    | zero => simp [itemsMapOrigin]
    | succ position => simp [itemsMapOrigin, ih]

@[simp] theorem get?_fieldsMapOrigin (k : String) (fields : Fields) :
    Dictionary.get? k (fieldsMapOrigin f fields) =
      (Dictionary.get? k fields).map (Value.mapOrigin f) := by
  induction fields with
  | nil => simp [fieldsMapOrigin]
  | cons field rest ih =>
    obtain ⟨k', v⟩ := field
    by_cases h : k' = k <;> simp [fieldsMapOrigin, Dictionary.get?_cons, h, ih]

theorem fieldsMapOrigin_set (k : String) (v : Value) (fields : Fields) :
    fieldsMapOrigin f (Dictionary.set k v fields) =
      Dictionary.set k (v.mapOrigin f) (fieldsMapOrigin f fields) := by
  induction fields with
  | nil => simp [Dictionary.set, fieldsMapOrigin]
  | cons field rest ih =>
    obtain ⟨k', v'⟩ := field
    by_cases h : k' = k <;> simp [Dictionary.set, fieldsMapOrigin, h, ih]

/-! ## Layers that are laid over each other -/

/-- What holds of a value laid over any other holds of it laid over what may be there. -/
theorem mapOrigin_ontoField {v : Value}
    (h : ∀ old, (Value.onto old v).mapOrigin f = Value.onto (old.mapOrigin f) (v.mapOrigin f))
    (base : Option Value) :
    (Value.ontoField base v).mapOrigin f =
      Value.ontoField (base.map (Value.mapOrigin f)) (v.mapOrigin f) := by
  cases base with
  | none => rw [Option.map_none, Value.ontoField, Value.ontoField]
  | some old => rw [Option.map_some, Value.ontoField, Value.ontoField, h]

-- The recursion is on what is laid over. Its fields meet values of the base that are no parts of
-- each other, so that the base stays arbitrary.
mutual

/-- Origins can be changed before or after values are laid over each other. -/
theorem mapOrigin_onto : ∀ (base v : Value),
    (Value.onto base v).mapOrigin f = Value.onto (base.mapOrigin f) (v.mapOrigin f)
  | base, .scalar o s => by simp [Value.onto, Value.mapOrigin]
  | base, .list o items => by simp [Value.onto, Value.mapOrigin]
  | base, .table o fields => by
    cases base with
    | table o' old => simp [Value.onto, Value.mapOrigin, fieldsMapOrigin_fieldsOnto old fields]
    | scalar o' s => simp [Value.onto, Value.mapOrigin]
    | list o' items => simp [Value.onto, Value.mapOrigin]

theorem fieldsMapOrigin_fieldsOnto : ∀ (base later : Fields),
    fieldsMapOrigin f (Value.fieldsOnto base later) =
      Value.fieldsOnto (fieldsMapOrigin f base) (fieldsMapOrigin f later)
  | base, [] => by simp [Value.fieldsOnto, fieldsMapOrigin]
  | base, (k, v) :: rest => by
    rw [Value.fieldsOnto, fieldsMapOrigin_set, fieldsMapOrigin_fieldsOnto base rest,
      mapOrigin_ontoField f fun old => mapOrigin_onto old v, fieldsMapOrigin, Value.fieldsOnto,
      get?_fieldsMapOrigin]

end

/-! ## Documents -/

theorem ofFields?_fieldsMapOrigin (o : Origin) (fields : Fields) :
    Value.ofFields? (f o) (fieldsMapOrigin f fields) =
      (Value.ofFields? o fields).map (Value.mapOrigin f) := by
  rw [Value.ofFields?, Value.ofFields?, get?_fieldsMapOrigin, get?_fieldsMapOrigin,
    Option.isSome_map]
  split
  · rfl
  · cases Dictionary.get? Value.contentKey fields with
    | none => simp [Value.mapOrigin]
    | some v => simp

mutual

/-- A document whose values get another origin gives the same values with that origin. -/
theorem ofToml?_mapOrigin (o : Origin) : ∀ v : Toml.Value,
    Value.ofToml? (f o) v = (Value.ofToml? o v).map (Value.mapOrigin f)
  | .text s => by simp [Value.ofToml?, Value.mapOrigin]
  | .integer n => by simp [Value.ofToml?, Value.mapOrigin]
  | .float x => by simp [Value.ofToml?, Value.mapOrigin]
  | .truth b => by simp [Value.ofToml?, Value.mapOrigin]
  | .moment => by simp [Value.ofToml?, Value.mapOrigin, fieldsMapOrigin]
  | .list items => by
    rw [Value.ofToml?, Value.ofToml?, itemsOfToml?_mapOrigin o items]
    cases Value.itemsOfToml? o items <;> simp [Value.mapOrigin]
  | .table fields => by
    rw [Value.ofToml?, Value.ofToml?, fieldsOfToml?_mapOrigin o fields]
    cases Value.fieldsOfToml? o fields with
    | none => rfl
    | some layer => exact ofFields?_fieldsMapOrigin f o layer

theorem itemsOfToml?_mapOrigin (o : Origin) : ∀ items : List Toml.Value,
    Value.itemsOfToml? (f o) items = (Value.itemsOfToml? o items).map (itemsMapOrigin f)
  | [] => by simp [Value.itemsOfToml?, itemsMapOrigin]
  | v :: rest => by
    rw [Value.itemsOfToml?, Value.itemsOfToml?, ofToml?_mapOrigin o v,
      itemsOfToml?_mapOrigin o rest]
    cases Value.ofToml? o v <;> cases Value.itemsOfToml? o rest <;> simp [itemsMapOrigin]

theorem fieldsOfToml?_mapOrigin (o : Origin) : ∀ fields : List (String × Toml.Value),
    Value.fieldsOfToml? (f o) fields = (Value.fieldsOfToml? o fields).map (fieldsMapOrigin f)
  | [] => by simp [Value.fieldsOfToml?, fieldsMapOrigin]
  | (k, v) :: rest => by
    rw [Value.fieldsOfToml?, Value.fieldsOfToml?, ofToml?_mapOrigin o v,
      fieldsOfToml?_mapOrigin o rest]
    cases Value.ofToml? o v <;> cases Value.fieldsOfToml? o rest <;> simp [fieldsMapOrigin]

end

end Values

/-! ## Reading -/

/-- The mismatch with the origins in its value changed. -/
def Mismatch.mapOrigin (f : Origin → Origin) (m : Mismatch) : Mismatch :=
  ⟨m.value.mapOrigin f, m.expected, m.keys⟩

theorem mapError_bind {α β ε ε' : Type} (f : ε → ε') (x : Except ε α) (g : α → Except ε β) :
    (x >>= g).mapError f = x.mapError f >>= fun a => (g a).mapError f := by
  cases x with
  | error e => rfl
  | ok a => rfl

/-- Only the mismatch that the reader reports shows the origins. -/
def IgnoresOrigin {α : Type} (f : Origin → Origin) (read : Reader α) : Prop :=
  ∀ keys v, read keys (v.mapOrigin f) = (read keys v).mapError (Mismatch.mapOrigin f)

section Reading

variable (f : Origin → Origin)

theorem ignoresOrigin_readText : IgnoresOrigin f readText
  | _, .scalar _ s => by cases s <;> rfl
  | _, .list _ _ => rfl
  | _, .table _ _ => rfl

theorem ignoresOrigin_readTruth : IgnoresOrigin f readTruth
  | _, .scalar _ s => by cases s <;> rfl
  | _, .list _ _ => rfl
  | _, .table _ _ => rfl

theorem ignoresOrigin_readPath : IgnoresOrigin f readPath
  | _, .scalar _ s => by cases s <;> rfl
  | _, .list _ _ => rfl
  | _, .table _ _ => rfl

theorem readItems_itemsMapOrigin (keys : List String) (position : Nat) (items : List Value) :
    readItems keys position (itemsMapOrigin f items) =
      (readItems keys position items).mapError (Mismatch.mapOrigin f) := by
  induction items generalizing position with
  | nil => rfl
  | cons v rest ih =>
    rw [itemsMapOrigin, readItems, readItems, ignoresOrigin_readText, ih]
    cases readText (keys ++ [toString position]) v with
    | error m => rfl
    | ok s => cases readItems keys (position + 1) rest <;> rfl

theorem ignoresOrigin_readTexts : IgnoresOrigin f readTexts
  | _, .scalar _ _ => rfl
  | keys, .list _ items => readItems_itemsMapOrigin f keys 0 items
  | _, .table _ _ => rfl

variable {f} {α : Type} {read : Reader α} (default : α) (keys : List String)

theorem IgnoresOrigin.readOr (h : IgnoresOrigin f read) (v : Option Value) :
    readOr default read keys (v.map (Value.mapOrigin f)) =
      (readOr default read keys v).mapError (Mismatch.mapOrigin f) := by
  cases v with
  | none => rfl
  | some v => exact h keys v

theorem IgnoresOrigin.readField (h : IgnoresOrigin f read) (k : String) (fields : Fields) :
    readField default read keys k (fieldsMapOrigin f fields) =
      (readField default read keys k fields).mapError (Mismatch.mapOrigin f) := by
  rw [Config.readField, get?_fieldsMapOrigin, h.readOr, Config.readField]

theorem IgnoresOrigin.readAt (h : IgnoresOrigin f read) (position : Nat) (items : List Value) :
    readAt default read keys position (itemsMapOrigin f items) =
      (readAt default read keys position items).mapError (Mismatch.mapOrigin f) := by
  rw [Config.readAt, getElem?_itemsMapOrigin, h.readOr, Config.readAt]

variable (f)

theorem ignoresOrigin_readLogging : IgnoresOrigin f readLogging
  | _, .scalar _ _ => rfl
  | keys, .list o items => by
    rw [Value.mapOrigin]
    simp only [readLogging, mapError_bind, (ignoresOrigin_readText f).readAt,
      (ignoresOrigin_readTruth f).readAt, (ignoresOrigin_readPath f).readAt]
    rfl
  | keys, .table o fields => by
    rw [Value.mapOrigin]
    simp only [readLogging, mapError_bind, (ignoresOrigin_readText f).readField,
      (ignoresOrigin_readTruth f).readField, (ignoresOrigin_readPath f).readField]
    rfl

theorem ignoresOrigin_readRegistry : IgnoresOrigin f readRegistry
  | _, .scalar _ _ => rfl
  | keys, .list o items => by
    rw [Value.mapOrigin]
    simp only [readRegistry, mapError_bind, (ignoresOrigin_readTruth f).readAt,
      (ignoresOrigin_readTexts f).readAt]
    rfl
  | keys, .table o fields => by
    rw [Value.mapOrigin]
    simp only [readRegistry, mapError_bind, (ignoresOrigin_readTruth f).readField,
      (ignoresOrigin_readTexts f).readField]
    rfl

/-- A configuration is read from a layer whatever the origins are; a mismatch shows them. -/
theorem ofFields_fieldsMapOrigin (layer : Fields) :
    ofFields (fieldsMapOrigin f layer) = (ofFields layer).mapError (Mismatch.mapOrigin f) := by
  simp only [ofFields, mapError_bind, (ignoresOrigin_readLogging f).readField,
    (ignoresOrigin_readRegistry f).readField]
  rfl

end Reading

end StateHolders.Config

namespace StateHolders

open Config (Origin Fields fieldsMapOrigin)

variable (f : Origin → Origin)

/-- The failure with the origins in it changed; only a mismatch shows any. -/
def LoadFailure.mapOrigin : LoadFailure → LoadFailure
  | .mismatch m => .mismatch (m.mapOrigin f)
  | e => e

theorem Loader.documentFields_mapOrigin (o : Origin) (content : List UInt8) :
    documentFields (f o) content = (documentFields o content).map (fieldsMapOrigin f) := by
  rw [documentFields, documentFields]
  cases (Text.ofUtf8? content).bind Toml.parse? with
  | none => rfl
  | some document =>
    rw [Option.bind_some, Option.bind_some, Config.fieldsOfToml?_mapOrigin]
    cases Config.Value.fieldsOfToml? o document <;> rfl

/-- What a file and an environment give over the defaults does not depend on the origins, as long
as those of the defaults stay. -/
theorem Config.ofLayers_mapOrigin (hdefaults : f .defaults = .defaults)
    (file environment : Fields) :
    ofLayers (fieldsMapOrigin f file) (fieldsMapOrigin f environment) =
      (ofLayers file environment).mapError (LoadFailure.mapOrigin f) := by
  have hkept : fieldsMapOrigin f (toFields .defaults .default) = toFields .defaults .default := by
    simp [toFields, fieldsMapOrigin, itemsMapOrigin, Value.mapOrigin, hdefaults, Config.default,
      LoggingConfig.default, RegistryConfig.default]
  rw [ofLayers, ofLayers]
  conv_lhs => rw [← hkept]
  simp only [← fieldsMapOrigin_fieldsOnto, ofFields_fieldsMapOrigin]
  cases ofFields (Value.fieldsOnto (Value.fieldsOnto (toFields .defaults .default) file)
      environment) with
  | error m => rfl
  | ok c =>
    simp only [Except.mapError]
    cases c.check <;> rfl

/-- Loading with other origins in the layers of the file and of the environment. -/
theorem Loader.mapError_load_mapOrigin (hdefaults : f .defaults = .defaults) (l : Loader)
    (w : World) :
    (l.load w).mapError (LoadFailure.mapOrigin f) =
      match Config.environmentFields? l.prefixName w.environment with
      | none => .error .torn
      | some environment =>
        match (fileFields w (l.chosen w).1).map (fieldsMapOrigin f) with
        | .error e => .error (e.mapOrigin f)
        | .ok file => Config.ofLayers file (fieldsMapOrigin f environment) := by
  rw [load]
  cases Config.environmentFields? l.prefixName w.environment with
  | none => rfl
  | some environment =>
    cases fileFields w (l.chosen w).1 with
    | error e => rfl
    | ok file => exact (Config.ofLayers_mapOrigin f hdefaults file environment).symm

end StateHolders
