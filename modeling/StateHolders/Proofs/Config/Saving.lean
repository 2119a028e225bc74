import StateHolders.Proofs.Config.Layers
import StateHolders.Proofs.Files
import StateHolders.Proofs.Toml.Document

/-!
# A saved configuration is loaded again

What saving writes is read as a layer that sets exactly what the configuration says. Loading by the
same path then gives the configuration back, whatever was there before.
-/

namespace StateHolders.Config

/-! ## The document of a configuration -/

/-- The document in pieces, one for each statement. -/
def pieces (c : Config) (fileText : Option String) : List (List Char) :=
  ["[logging]\n".toList,
      line "level" (Toml.writtenText c.logging.level),
      line "json_format" (Toml.writtenTruth c.logging.jsonFormat)] ++
    fileText.toList.map (fun s => line "file_output" (Toml.writtenText s)) ++
    ["\n[registry]\n".toList,
      line "discover" (Toml.writtenTruth c.registry.discover),
      line "disabled" (Toml.writtenTexts c.registry.disabled)]

/-- The bytes of the document. -/
def written (c : Config) (fileText : Option String) : List UInt8 :=
  Text.utf8 (String.ofList (c.pieces fileText).flatten)

/-- The statements of the document. -/
def statements (c : Config) (fileText : Option String) : List Toml.Statement :=
  [.header ["logging"],
      .assign ["level"] (.text c.logging.level),
      .assign ["json_format"] (.truth c.logging.jsonFormat)] ++
    fileText.toList.map (fun s => .assign ["file_output"] (.text s)) ++
    [.header ["registry"],
      .assign ["discover"] (.truth c.registry.discover),
      .assign ["disabled"] (.list (c.registry.disabled.map .text))]

theorem document?_eq_flatten (c : Config) :
    c.document? = (LoggingConfig.fileText? c.logging).map fun t => (c.pieces t).flatten := by
  cases hfile : LoggingConfig.fileText? c.logging with
  | none => simp [document?, hfile]
  | some t => cases t <;> simp [document?, hfile, pieces]

/-- Only a path that encodes no text has no text. -/
theorem fileText?_eq_none_iff (c : LoggingConfig) :
    LoggingConfig.fileText? c = none ↔ ∃ f, c.fileOutput = some f ∧ Text.ofUtf8? f = none := by
  rw [LoggingConfig.fileText?]
  cases c.fileOutput with
  | none => simp
  | some f => simp

/-- A configuration whose log file is a text can be written. -/
theorem exists_fileText {c : LoggingConfig}
    (h : ∀ f, c.fileOutput = some f → ∃ s, Text.ofUtf8? f = some s) :
    ∃ fileText, LoggingConfig.fileText? c = some fileText := by
  rw [← Option.ne_none_iff_exists', ne_eq, fileText?_eq_none_iff]
  rintro ⟨f, hf, hnone⟩
  obtain ⟨s, hs⟩ := h f hf
  rw [hs] at hnone
  cases hnone

/-- Each piece of the document is read as its statement. -/
theorem readsStatement_pieces (c : Config) (fileText : Option String) :
    List.Forall₂ Toml.ReadsStatement (c.pieces fileText) (c.statements fileText) := by
  have hline (key : String) (hkey : Toml.isBareKey key = true) {written : List Char}
      {v : Toml.Value} (h : Toml.ReadsValue written v) :
      Toml.ReadsStatement (line key written) (.assign [key] v) :=
    Toml.readsStatement_assign key hkey h
  have htext := Toml.readsValue_writtenText
  have htruth := Toml.readsValue_writtenTruth
  have hlogging : Toml.ReadsStatement "[logging]\n".toList (.header ["logging"]) :=
    Toml.readsStatement_header "logging" rfl
  have hregistry : Toml.ReadsStatement "\n[registry]\n".toList (.header ["registry"]) :=
    (Toml.readsStatement_header "registry" rfl).afterEmptyLine
  have hlevel := hline "level" rfl (htext c.logging.level)
  have hjson := hline "json_format" rfl (htruth c.logging.jsonFormat)
  have hdiscover := hline "discover" rfl (htruth c.registry.discover)
  have hdisabled := hline "disabled" rfl
    (Toml.readsValue_writtenTexts c.registry.disabled)
  cases fileText with
  | none =>
    exact .cons hlogging (.cons hlevel (.cons hjson (.cons hregistry (.cons hdiscover
      (.cons hdisabled .nil)))))
  | some s =>
    exact .cons hlogging (.cons hlevel (.cons hjson (.cons (hline "file_output" rfl (htext s))
      (.cons hregistry (.cons hdiscover (.cons hdisabled .nil))))))

/-! ## The layer of a saved configuration -/

/-- The layer that the document comes to. -/
def layer (o : Origin) (c : Config) (fileText : Option String) : Fields :=
  let text (s : String) : Value := .scalar o (.text s)
  let truth (b : Bool) : Value := .scalar o (.truth b)
  [("logging", .table o
      ([("level", text c.logging.level), ("json_format", truth c.logging.jsonFormat)] ++
        fileText.toList.map fun s => ("file_output", text s))),
    ("registry", .table o
      [("discover", truth c.registry.discover),
        ("disabled", .list o (c.registry.disabled.map text))])]

/-- The table that the statements of the document describe. -/
def table (c : Config) (fileText : Option String) : List (String × Toml.Value) :=
  [("logging", .table
      ([("level", .text c.logging.level), ("json_format", .truth c.logging.jsonFormat)] ++
        fileText.toList.map fun s => ("file_output", .text s))),
    ("registry", .table
      [("discover", .truth c.registry.discover),
        ("disabled", .list (c.registry.disabled.map .text))])]

theorem applyAll_statements (c : Config) (fileText : Option String) :
    (Toml.applyAll [] [] (c.statements fileText)).map Toml.finishEntries =
      some (c.table fileText) := by
  cases fileText with
  | none => rfl
  | some s => rfl

theorem itemsOfToml?_map_text (o : Origin) (names : List String) :
    Value.itemsOfToml? o (names.map .text) = some (names.map fun s => .scalar o (.text s)) := by
  induction names with
  | nil => rfl
  | cons s names ih =>
    rw [List.map_cons, Value.itemsOfToml?, ih]
    rfl

theorem fieldsOfToml?_table (o : Origin) (c : Config) (fileText : Option String) :
    Value.fieldsOfToml? o (c.table fileText) = some (c.layer o fileText) := by
  cases fileText <;>
    simp [table, layer, Value.fieldsOfToml?, Value.ofToml?, itemsOfToml?_map_text,
      Value.ofFields?, Dictionary.get?, Value.reservedKey, Value.contentKey]

/-- The document of a configuration is read as its layer. -/
theorem documentFields_written (o : Origin) (c : Config) (fileText : Option String) :
    Loader.documentFields o (c.written fileText) = .ok (c.layer o fileText) := by
  have hparse : Toml.parse? (String.ofList (c.pieces fileText).flatten) =
      some (c.table fileText) :=
    (Toml.parse?_flatten (readsStatement_pieces c fileText) (by simp [pieces])).trans
      (applyAll_statements c fileText)
  rw [Loader.documentFields, written, Text.ofUtf8?_utf8, Option.bind_some, hparse, Option.bind_some,
    fieldsOfToml?_table]

theorem sectioned_layer (o : Origin) (c : Config) (fileText : Option String) :
    Sectioned (c.layer o fileText) := by
  intro part hpart v hv
  rcases List.mem_pair.mp hpart with rfl | rfl
  · exact ⟨_, _, (Option.some.inj hv).symm⟩
  · exact ⟨_, _, (Option.some.inj hv).symm⟩

/-- The layer settles every setting as the configuration has it. -/
theorem settled_layer (o : Origin) {c : Config} {fileText : Option String}
    (h : LoggingConfig.fileText? c.logging = some fileText) :
    Settled (winning? (c.layer o fileText) []) c where
  level := ⟨o, rfl⟩
  jsonFormat := ⟨o, rfl⟩
  fileOutput := by
    rw [LoggingConfig.fileText?] at h
    cases hfile : c.logging.fileOutput with
    | none =>
      rw [hfile] at h
      obtain rfl := Option.some.inj h
      rfl
    | some p =>
      rw [hfile] at h
      obtain ⟨s, hs, rfl⟩ := Option.map_eq_some_iff.mp h
      exact ⟨s, ⟨o, rfl⟩, by rw [Path.ofText, Text.utf8_of_ofUtf8? hs]⟩
  discover := ⟨o, rfl⟩
  disabled := ⟨o, _, rfl, by
    rw [List.forall₂_map_left_iff]
    exact List.forall₂_same.mpr fun s _ => ⟨o, rfl⟩⟩

end StateHolders.Config

namespace StateHolders.Loader

variable {w : World}

/-! ## Loading a file -/

/-- The nearest place upwards is the place itself. -/
theorem upwards_eq_cons (l : Location) : ∃ further, upwards l = l :: further :=
  ⟨_, by rw [upwards, List.range_succ_eq_map, List.map_cons, Nat.sub_zero, List.take_length]⟩

/-- A path is looked up as it is if it is absolute, and else from the working directory first. -/
theorem exists_search_eq_some {p : Path} {content : List UInt8}
    (h : w.content? p = some content)
    (hseen : p.isAbsolute = true ∨ ∃ here, w.directory.place? = some here ∧
      w.content? ((Path.ofLocation here).join p) = some content) :
    ∃ found, search w p = some (found, content) := by
  by_cases habsolute : p.isAbsolute = true
  · exact ⟨p, by simp [search, candidates, habsolute, h]⟩
  · obtain ⟨here, hplace, hcontent⟩ := hseen.resolve_left habsolute
    obtain ⟨further, hupwards⟩ := upwards_eq_cons here
    exact ⟨(Path.ofLocation here).join p, by
      simp [search, candidates, habsolute, hplace, hupwards, hcontent]⟩

/-- From a working directory that was removed, a relative path leads to no file. -/
theorem search_eq_none_of_removed {p : Path} (hp : p.isAbsolute = false)
    (hremoved : w.directory.place? = none) : search w p = none := by
  simp [search, candidates, hp, hremoved]

/-- A path that is asked for is used if it leads to anything. -/
theorem chosen_of_pathExists {p : Path} (prefixName : String) (h : w.pathExists p = true) :
    ((⟨some p, prefixName⟩ : Loader).chosen w).1 = some p := by
  simp [chosen, h]

/-- A path that is asked for and leads nowhere is no file. -/
theorem fileFields_of_not_pathExists {l : Loader} {p : Path} (hpath : l.path = some p)
    (h : w.pathExists p = false) : fileFields w (l.chosen w).1 = .ok [] := by
  simp [chosen, hpath, h, fileFields]

/-- A file to which a configuration was written has the layer of the configuration, if loading asks
for it by a path under which it is also seen from the path of the working directory. -/
theorem exists_fileFields_of_written {c : Config} {p : Path} {fileText : Option String}
    (prefixName : String) (hcontent : w.content? p = some (c.written fileText))
    (hseen : p.isAbsolute = true ∨ ∃ here, w.directory.place? = some here ∧
      w.content? ((Path.ofLocation here).join p) = some (c.written fileText)) :
    ∃ o, fileFields w ((⟨some p, prefixName⟩ : Loader).chosen w).1 = .ok (c.layer o fileText) := by
  obtain ⟨found, hfound⟩ := exists_search_eq_some hcontent hseen
  refine ⟨.file (found.shownFrom w.directory.place?), ?_⟩
  rw [chosen_of_pathExists prefixName (World.pathExists_of_content? hcontent), fileFields, hfound]
  exact Config.documentFields_written _ c fileText

/-- A saved configuration is the layer of the file if its path also leads to the place of the file
when it is seen from the path of the working directory. -/
theorem fileFields_saved {c : Config} {p : Path} {place : Location} {fileText : Option String}
    (prefixName : String) (hplace : w.target p = .ok place)
    (hseen : p.isAbsolute = true ∨ ∃ here, w.directory.place? = some here ∧
      w.target ((Path.ofLocation here).join p) = .ok place) :
    let w' := w.put place (.file (c.written fileText))
    ∃ o, fileFields w' ((⟨some p, prefixName⟩ : Loader).chosen w').1 =
      .ok (c.layer o fileText) := by
  intro w'
  exact exists_fileFields_of_written prefixName (World.content?_put hplace _)
    (hseen.imp_right fun ⟨here, hhere, hjoin⟩ => ⟨here, hhere, World.content?_put hjoin _⟩)

/-- Loading gives the configuration that the file settles if no variable sets anything. -/
theorem load_eq_ok_of_settled {l : Loader} {file : Config.Fields} {c : Config}
    (hfile : fileFields w (l.chosen w).1 = .ok file)
    (henv : Config.matching l.prefixName w.environment = [])
    (hsectioned : Config.Sectioned file) (hsettled : Config.Settled (Config.winning? file []) c)
    (hlevel : ∃ level, Level.parse c.logging.level = .ok level)
    (hdisabled : ∀ name ∈ c.registry.disabled, Text.trim name.toList ≠ []) :
    l.load w = .ok c := by
  have hempty : Config.environmentFields? l.prefixName w.environment = some [] := by
    rw [Config.environmentFields?, henv]
    rfl
  exact (load_eq_ok_iff hfile hempty hsectioned Config.sectioned_nil c).mpr
    ⟨hsettled, hlevel, hdisabled⟩

/-- Loading gives the configuration whose layer the file is if no variable sets anything. -/
theorem load_eq_ok_of_layer {l : Loader} {o : Config.Origin} {c : Config}
    {fileText : Option String}
    (htext : Config.LoggingConfig.fileText? c.logging = some fileText)
    (hfile : fileFields w (l.chosen w).1 = .ok (c.layer o fileText))
    (henv : Config.matching l.prefixName w.environment = [])
    (hlevel : ∃ level, Level.parse c.logging.level = .ok level)
    (hdisabled : ∀ name ∈ c.registry.disabled, Text.trim name.toList ≠ []) :
    l.load w = .ok c :=
  load_eq_ok_of_settled hfile henv (Config.sectioned_layer o c fileText)
    (Config.settled_layer o htext) hlevel hdisabled

/-- Without a file and without variables, loading gives the defaults. -/
theorem load_eq_default {l : Loader} (hfile : fileFields w (l.chosen w).1 = .ok [])
    (henv : Config.matching l.prefixName w.environment = []) : l.load w = .ok .default :=
  load_eq_ok_of_settled hfile henv Config.sectioned_nil ⟨rfl, rfl, rfl, rfl, rfl⟩
    ⟨.info, by cbv⟩ (List.forall_mem_nil _)

/-- From a working directory that was removed, loading by a relative path gives the defaults,
whether or not the path leads to a file. -/
theorem load_eq_default_of_removed {p : Path} (prefixName : String) (hp : p.isAbsolute = false)
    (hremoved : w.directory.place? = none)
    (henv : Config.matching prefixName w.environment = []) :
    load ⟨some p, prefixName⟩ w = .ok .default := by
  refine load_eq_default ?_ henv
  cases hexists : w.pathExists p with
  | false => exact fileFields_of_not_pathExists rfl hexists
  | true =>
    rw [chosen_of_pathExists prefixName hexists, fileFields,
      search_eq_none_of_removed hp hremoved]

end StateHolders.Loader

namespace StateHolders.Config

/-! ## Saving -/

/-- A configuration that can be written is put at the place that the path names. -/
theorem save_of_target {c : Config} {w : World} {p : Path} {place : Location}
    {fileText : Option String} (hfile : LoggingConfig.fileText? c.logging = some fileText)
    (h : w.target p = .ok place) :
    c.save w p = (w.put place (.file (c.written fileText)), .ok ()) := by
  have hdocument : c.document? = some (c.pieces fileText).flatten := by
    rw [document?_eq_flatten, hfile]
    rfl
  rw [save, hdocument]
  dsimp only
  rw [World.write_of_target h, written]
  rfl

/-- A configuration that cannot be written is refused in the same way wherever it should go, and
nothing is written. -/
theorem save_of_fileText?_eq_none {c : Config} (h : LoggingConfig.fileText? c.logging = none) :
    ∃ message source, ∀ w p, c.save w p = (w, .error (.infrastructure message source)) := by
  have hdocument : c.document? = none := by
    rw [document?_eq_flatten, h]
    rfl
  refine ⟨"Failed to serialize config to TOML: " ++ unwritablePath.message, some unwritablePath,
    fun w p => ?_⟩
  rw [save, hdocument]
  rfl

/-- Whatever the reason, a configuration that is not saved leaves everything as it was. -/
theorem fst_save_of_error {c : Config} {w : World} {p : Path} {e : Error}
    (h : (c.save w p).2 = .error e) : (c.save w p).1 = w := by
  unfold save at h ⊢
  cases hdocument : c.document? with
  | none => rfl
  | some text =>
    rw [hdocument] at h
    dsimp only at h ⊢
    cases hwrite : (w.write p (Text.utf8 (String.ofList text))).2 with
    | error f => exact World.fst_write_of_error hwrite
    | ok _ =>
      rw [hwrite] at h
      cases h

end StateHolders.Config

namespace StateHolders.Loader

/-- What was saved is loaded. Loading asks for the path by which the configuration was saved, and no
variable of the environment sets anything. A relative path is looked up from the path of the working
directory, and so has to name the same file when it is seen from there: a working directory that was
removed has no path. A configuration whose log file is no text cannot be saved anywhere, and a save
that is refused, for this or any other reason, changes nothing. -/
theorem load_after_save (c : Config) (w : World) (p : Path) :
    (∀ (prefixName : String) (place : Location),
      (∃ level, Level.parse c.logging.level = .ok level) →
      (∀ name ∈ c.registry.disabled, Text.trim name.toList ≠ []) →
      (∀ f, c.logging.fileOutput = some f → ∃ s, Text.ofUtf8? f = some s) →
      w.target p = .ok place →
      (p.isAbsolute = true ∨ ∃ here, w.directory.place? = some here ∧
        w.target ((Path.ofLocation here).join p) = .ok place) →
      Config.matching prefixName w.environment = [] →
      ∃ w', c.save w p = (w', .ok ()) ∧ load ⟨some p, prefixName⟩ w' = .ok c) ∧
    (∀ f, c.logging.fileOutput = some f → Text.ofUtf8? f = none →
      ∃ message source, ∀ w' p', c.save w' p' = (w', .error (.infrastructure message source))) ∧
    ∀ e, (c.save w p).2 = .error e → (c.save w p).1 = w := by
  refine ⟨?_, ?_, fun e => Config.fst_save_of_error⟩
  · intro prefixName place hlevel hdisabled htext hplace hseen henv
    obtain ⟨fileText, hfile⟩ := Config.exists_fileText htext
    obtain ⟨o, hfields⟩ := fileFields_saved (c := c) prefixName hplace hseen
    exact ⟨_, Config.save_of_target hfile hplace,
      load_eq_ok_of_layer hfile hfields henv hlevel hdisabled⟩
  · intro f hf hnone
    exact Config.save_of_fileText?_eq_none
      ((Config.fileText?_eq_none_iff c.logging).mpr ⟨f, hf, hnone⟩)

/-- Marks of both kinds, three in a row, line feeds and controls come back, also by a relative path,
over a file with other bytes. A path that is no text is not saved. -/
theorem load_after_save_of_quotes :
    let c : Config := ⟨⟨"Debug", true, some (Path.ofText "\x07\"'''\\\n")⟩,
      ⟨false, ["\"\"\"\"\n'", "'\\"]⟩⟩
    let unwritable : Config := ⟨⟨"info", false, some [0xFF]⟩, .default⟩
    let w : World :=
      ⟨[([[101]], .directory), ([[101], [99]], .file [0xFF])], ⟨[[101]], 0⟩, [("VMF", "1")], none⟩
    let p := Path.ofText "c"
    (∃ level, Level.parse c.logging.level = .ok level) ∧
      (∀ name ∈ c.registry.disabled, Text.trim name.toList ≠ []) ∧
      (∀ f, c.logging.fileOutput = some f → ∃ s, Text.ofUtf8? f = some s) ∧
      w.target p = .ok [[101], [99]] ∧ w.directory.place? = some [[101]] ∧
      w.target ((Path.ofLocation [[101]]).join p) = .ok [[101], [99]] ∧
      Config.matching "VMF" w.environment = [] ∧
      (∃ w', c.save w p = (w', .ok ()) ∧ load ⟨some p, "VMF"⟩ w' = .ok c) ∧
      Text.ofUtf8? [0xFF] = none ∧
      ∃ message source, unwritable.save w p = (w, .error (.infrastructure message source)) := by
  intro c unwritable w p
  have hlevel : ∃ level, Level.parse c.logging.level = .ok level := ⟨.debug, by cbv⟩
  have hdisabled : ∀ name ∈ c.registry.disabled, Text.trim name.toList ≠ [] := by decide
  have htext : ∀ f, c.logging.fileOutput = some f → ∃ s, Text.ofUtf8? f = some s := by
    rintro f hf
    obtain rfl := Option.some.inj hf
    exact ⟨_, Text.ofUtf8?_utf8 _⟩
  have hplace : w.target p = .ok [[101], [99]] := by rfl
  have hlocate : w.locate (Path.ofLocation [[101]]) = .ok (w.directory, .directory) := by rfl
  have hjoin : w.target ((Path.ofLocation [[101]]).join p) = .ok [[101], [99]] :=
    World.target_join hlocate rfl rfl (by decide) hplace
  have henv : Config.matching "VMF" w.environment = [] := by rfl
  have hnone : Text.ofUtf8? [0xFF] = none := by decide
  refine ⟨hlevel, hdisabled, htext, hplace, rfl, hjoin, henv, ?_, hnone, ?_⟩
  · exact (load_after_save c w p).1 "VMF" _ hlevel hdisabled htext hplace (.inr ⟨_, rfl, hjoin⟩)
      henv
  · obtain ⟨-, hrefused, -⟩ := load_after_save unwritable w p
    obtain ⟨message, source, hsave⟩ := hrefused _ rfl hnone
    exact ⟨message, source, hsave w p⟩

/-- From a working directory that was removed, a relative path still leads upwards to where a
configuration is saved, but loading by it gives the defaults. -/
theorem not_load_after_save_in_removed_directory :
    let c : Config := ⟨⟨"debug", false, none⟩, ⟨false, ["alpha"]⟩⟩
    let before : World :=
      ⟨[([Path.ofText "gone"], .directory)], ⟨[Path.ofText "gone"], 0⟩, [], none⟩
    let w : World := ⟨[], ⟨[], 1⟩, [], none⟩
    let p := Path.ofText "../out.toml"
    before.removeDirectory? (Path.ofText "/gone") = some w ∧
      (∃ level, Level.parse c.logging.level = .ok level) ∧
      (∀ name ∈ c.registry.disabled, Text.trim name.toList ≠ []) ∧
      (∀ f, c.logging.fileOutput = some f → ∃ s, Text.ofUtf8? f = some s) ∧
      w.target p = .ok [Path.ofText "out.toml"] ∧
      Config.matching "VMF" w.environment = [] ∧
      ∃ w', c.save w p = (w', .ok ()) ∧ load ⟨some p, "VMF"⟩ w' = .ok .default ∧
        Config.default ≠ c := by
  intro c before w p
  have hplace : w.target p = .ok [Path.ofText "out.toml"] := by rfl
  have htext : ∀ f, c.logging.fileOutput = some f → ∃ s, Text.ofUtf8? f = some s := by
    intro f hf
    cases hf
  exact ⟨by rfl, ⟨.debug, by cbv⟩, by decide, htext, hplace, by rfl, _,
    Config.save_of_target rfl hplace, load_eq_default_of_removed "VMF" rfl rfl rfl, by decide⟩

end StateHolders.Loader
