import StateHolders.Proofs.Config.FixedPoint
import StateHolders.Proofs.Config.Origins

/-!
# What loading depends on

Of the environment, loading reads the variables whose names begin with the prefix, and for the
default places the directory of the user. Of the files, it reads the one that was asked for, or the
first of the default places at which there is one. Two worlds that agree on these load alike; only
the words that show the file in the report of a mismatch can differ, because they depend on the
working directory.
-/

namespace StateHolders.Config

/-! ## The variables that count -/

/-- The name begins with the prefix and two underscores, in any ASCII case and after any blanks. -/
def isMatching (prefixName name : String) : Bool :=
  ((variableStart prefixName).toList.map Char.toLower).isPrefixOf
    ((Text.trim name.toList).map Char.toLower)

/-- The variables whose names begin so, in order. -/
def matchingVariables (prefixName : String) (environment : List (String × String)) :
    List (String × String) :=
  environment.filter fun pair => isMatching prefixName pair.1

theorem isSome_dropStart? (start cs : List Char) :
    (dropStart? start cs).isSome = (start.map Char.toLower).isPrefixOf (cs.map Char.toLower) := by
  induction start generalizing cs with
  | nil => simp [dropStart?]
  | cons a start ih =>
    cases cs with
    | nil => simp [dropStart?]
    | cons c cs =>
      by_cases h : a.toLower = c.toLower <;> simp [dropStart?, List.isPrefixOf, h, ih]

/-- A name that does not begin so has no keys. -/
theorem keysOf?_eq_none_of_isMatching {prefixName name : String}
    (h : isMatching prefixName name = false) : keysOf? (variableStart prefixName) name = none := by
  rw [isMatching, ← isSome_dropStart?, Option.isSome_eq_false_iff, Option.isNone_iff_eq_none] at h
  rw [keysOf?, h, Option.bind_none]

/-- Only the variables that count make up the layer of the environment. -/
theorem environmentFields?_matchingVariables (prefixName : String)
    (environment : List (String × String)) :
    environmentFields? prefixName (matchingVariables prefixName environment) =
      environmentFields? prefixName environment := by
  have hmatching : matching prefixName (matchingVariables prefixName environment) =
      matching prefixName environment := by
    rw [matching, matchingVariables, List.filterMap_filter, matching]
    refine List.filterMap_congr fun pair _ => ?_
    cases h : isMatching prefixName pair.1 with
    | true => rfl
    | false => simp [keysOf?_eq_none_of_isMatching h]
  rw [environmentFields?, environmentFields?, hmatching]

theorem environmentFields?_congr {prefixName : String}
    {environment environment' : List (String × String)}
    (h : matchingVariables prefixName environment = matchingVariables prefixName environment') :
    environmentFields? prefixName environment = environmentFields? prefixName environment' := by
  rw [← environmentFields?_matchingVariables, h, environmentFields?_matchingVariables]

/-- The origin without the words that show a file. -/
def Origin.unshown : Origin → Origin
  | .file _ => .file ""
  | o => o

end StateHolders.Config

namespace StateHolders.World

/-! ## Worlds with the same files -/

variable {w w' : World}

/-- The path is the first of some paths that leads to anything. -/
def IsFirstExisting (w : World) (paths : List Path) (p : Path) : Prop :=
  ∃ earlier later, paths = earlier ++ p :: later ∧ w.pathExists p = true ∧
    ∀ q ∈ earlier, w.pathExists q = false

theorem find?_pathExists_eq_some_iff (paths : List Path) (p : Path) :
    paths.find? w.pathExists = some p ↔ w.IsFirstExisting paths p := by
  rw [List.find?_eq_some_iff_append, IsFirstExisting]
  constructor
  · rintro ⟨hp, earlier, later, rfl, hearlier⟩
    exact ⟨earlier, later, rfl, hp, fun q hq => by simpa using hearlier q hq⟩
  · rintro ⟨earlier, later, rfl, hp, hearlier⟩
    exact ⟨hp, earlier, later, rfl, fun q hq => by simp [hearlier q hq]⟩

theorem holds?_congr (hnodes : w.nodes = w'.nodes) (s : Standing) : w.holds? s = w'.holds? s := by
  simp only [holds?, at?, hnodes]

theorem follow_congr (hnodes : w.nodes = w'.nodes) (s : Standing) (names : List Name) :
    w.follow s names = w'.follow s names := by
  induction names generalizing s with
  | nil => rfl
  | cons n rest ih => simp only [follow, holds?_congr hnodes, ih]

/-- What a path leads to does not depend on the environment. -/
theorem node_congr (hnodes : w.nodes = w'.nodes) (hdirectory : w.directory = w'.directory) :
    w.node = w'.node := by
  funext p
  simp only [node, locate, start, follow_congr hnodes, holds?_congr hnodes, hdirectory]

end StateHolders.World

namespace StateHolders.Loader

open Config (Origin Fields environmentFields? fieldsMapOrigin matchingVariables)

variable {l : Loader} {w w' : World}

/-! ## Outcomes -/

/-- What the environment gives over the defaults. -/
def ofEnvironment (l : Loader) (environment : List (String × String)) : Except LoadFailure Config :=
  match environmentFields? l.prefixName environment with
  | none => .error .torn
  | some environment => Config.ofLayers [] environment

/-- Two outcomes are the same configuration or the same failure, but for the words that show the
file in which a value of the wrong kind stands. -/
def SameOutcome (x y : Except LoadFailure Config) : Prop :=
  x.mapError (LoadFailure.mapOrigin Origin.unshown) =
    y.mapError (LoadFailure.mapOrigin Origin.unshown)

/-- Loading depends on the layers of the environment and of the file. -/
theorem load_congr {l' : Loader}
    (henv : environmentFields? l.prefixName w.environment =
      environmentFields? l'.prefixName w'.environment)
    (hfile : fileFields w (l.chosen w).1 = fileFields w' (l'.chosen w').1) :
    l.load w = l'.load w' := by
  rw [load, load, henv, hfile]

/-- Without a file, loading gives what the environment gives. -/
theorem load_eq_ofEnvironment (h : fileFields w (l.chosen w).1 = .ok []) :
    l.load w = l.ofEnvironment w.environment := by
  rw [load, ofEnvironment]
  cases environmentFields? l.prefixName w.environment with
  | none => rfl
  | some environment =>
    dsimp only
    rw [h]

/-- Files that give the same layer, shown in whatever words, are loaded with the same outcome. -/
theorem sameOutcome_load
    (henv : environmentFields? l.prefixName w.environment =
      environmentFields? l.prefixName w'.environment)
    (hfile : (fileFields w (l.chosen w).1).map (fieldsMapOrigin Origin.unshown) =
      (fileFields w' (l.chosen w').1).map (fieldsMapOrigin Origin.unshown)) :
    SameOutcome (l.load w) (l.load w') := by
  rw [SameOutcome, mapError_load_mapOrigin _ rfl, mapError_load_mapOrigin _ rfl, henv, hfile]

/-! ## A file that is asked for -/

/-- An absolute path is taken as it is: the layer is that of the file at the path, if there is
one. -/
theorem fileFields_of_isAbsolute {p : Path} (hpath : l.path = some p)
    (habsolute : p.isAbsolute = true) :
    fileFields w (l.chosen w).1 =
      match w.content? p with
      | none => .ok []
      | some content => documentFields (.file (p.shownFrom w.directory.place?)) content := by
  have hsearch : search w p = (w.content? p).map fun content => (p, content) := by
    simp [search, candidates, habsolute]
  cases hcontent : w.content? p with
  | none =>
    cases hexists : w.pathExists p with
    | false => exact fileFields_of_not_pathExists hpath hexists
    | true => simp [chosen, hpath, hexists, fileFields, hsearch, hcontent]
  | some content =>
    have hexists := World.pathExists_of_content? hcontent
    simp [chosen, hpath, hexists, fileFields, hsearch, hcontent]

/-- Of all files, only the one at an absolute path that is asked for counts. -/
theorem sameOutcome_load_of_content? {p : Path} (hpath : l.path = some p)
    (habsolute : p.isAbsolute = true)
    (hvariables : matchingVariables l.prefixName w.environment =
      matchingVariables l.prefixName w'.environment)
    (hcontent : w.content? p = w'.content? p) : SameOutcome (l.load w) (l.load w') := by
  refine sameOutcome_load (Config.environmentFields?_congr hvariables) ?_
  rw [fileFields_of_isAbsolute hpath habsolute, fileFields_of_isAbsolute hpath habsolute,
    ← hcontent]
  cases w.content? p with
  | none => rfl
  | some content =>
    have hunshown (shown : String) :
        (documentFields (.file shown) content).map (fieldsMapOrigin Origin.unshown) =
          documentFields (.file "") content :=
      (documentFields_mapOrigin Origin.unshown (.file shown) content).symm
    dsimp only
    rw [hunshown, hunshown]

/-! ## The default places -/

/-- The default places at a working directory with a path, for a user who may have a directory. -/
def placesFrom (here : Location) (user : Option Path) : List Path :=
  let base := Path.ofLocation here
  [base.join fileName, (base.join directoryName).join fileName] ++
    user.toList.map fun p => (p.join directoryName).join fileName

theorem defaultPaths_of_place? {here : Location} (h : w.directory.place? = some here) :
    defaultPaths w = placesFrom here (userDirectory? w) := by
  rw [defaultPaths, h]
  rfl

/-- The first of the default places at which there is anything is used as if it was asked for. -/
theorem load_of_isFirstExisting {p : Path} (hpath : l.path = none)
    (h : w.IsFirstExisting (defaultPaths w) p) :
    l.load w = load ⟨some p, l.prefixName⟩ w := by
  have hfind := (World.find?_pathExists_eq_some_iff _ p).mpr h
  obtain ⟨_, _, -, hexists, -⟩ := h
  exact load_congr rfl (by simp [chosen, hpath, hfind, hexists])

/-- Without anything at the default places, there is no file. -/
theorem fileFields_of_none_exists (hpath : l.path = none)
    (h : ∀ p ∈ defaultPaths w, w.pathExists p = false) :
    fileFields w (l.chosen w).1 = .ok [] := by
  have hfind : (defaultPaths w).find? w.pathExists = none :=
    List.find?_eq_none.mpr fun p hp => by simp [h p hp]
  simp [chosen, hpath, hfind, fileFields]

/-- Variables that do not count change at most where the directory of the user is. -/
theorem load_congr_of_same_files (hnodes : w.nodes = w'.nodes)
    (hdirectory : w.directory = w'.directory)
    (hvariables : matchingVariables l.prefixName w.environment =
      matchingVariables l.prefixName w'.environment)
    (huser : l.path = none → userDirectory? w = userDirectory? w') : l.load w = l.load w' := by
  have hnode := World.node_congr hnodes hdirectory
  have hexists : w.pathExists = w'.pathExists := by
    funext p
    rw [World.pathExists, hnode, World.pathExists]
  have hsearch : search w = search w' := by
    funext p
    simp only [search, candidates, World.content?, hnode, hdirectory]
  have hchosen : l.chosen w = l.chosen w' := by
    cases hpath : l.path with
    | some p => simp only [chosen, hpath, hexists]
    | none => simp only [chosen, hpath, defaultPaths, hdirectory, huser hpath, hexists]
  refine load_congr (Config.environmentFields?_congr hvariables) ?_
  rw [hchosen]
  cases (l.chosen w').1 with
  | none => rfl
  | some p => simp only [fileFields, hsearch, hdirectory]

/-- What loading may depend on, for two worlds with the same variables that begin with the prefix.
A file that is asked for by an absolute path is the only one that counts, and a file that is asked
for and is missing is not replaced by another. If none is asked for, the first of the default places
at which there is anything is loaded as if it was asked for, and nothing after it counts; the
working directory has to have a path for this. Of the environment, nothing else counts but for where
the directory of the user is. -/
theorem load_depends_on_chosen_file (l : Loader) (w w' : World)
    (hvariables : matchingVariables l.prefixName w.environment =
      matchingVariables l.prefixName w'.environment) :
    (∀ p, l.path = some p →
      (p.isAbsolute = true → w.content? p = w'.content? p →
        SameOutcome (l.load w) (l.load w')) ∧
      (w.pathExists p = false → l.load w = l.ofEnvironment w.environment)) ∧
    (l.path = none → ∀ here, w.directory.place? = some here →
      (∀ p, w.IsFirstExisting (placesFrom here (userDirectory? w)) p →
        l.load w = load ⟨some p, l.prefixName⟩ w ∧
        ∀ here', w'.directory.place? = some here' →
          w'.IsFirstExisting (placesFrom here' (userDirectory? w')) p →
          p.isAbsolute = true → w.content? p = w'.content? p →
          SameOutcome (l.load w) (l.load w')) ∧
      ((∀ p ∈ placesFrom here (userDirectory? w), w.pathExists p = false) →
        l.load w = l.ofEnvironment w.environment)) ∧
    (w.nodes = w'.nodes → w.directory = w'.directory →
      (l.path = none → userDirectory? w = userDirectory? w') → l.load w = l.load w') := by
  refine ⟨fun p hpath => ⟨fun habsolute hcontent => ?_, fun hmissing => ?_⟩,
    fun hpath here hhere => ?_, fun hnodes hdirectory huser => ?_⟩
  · exact sameOutcome_load_of_content? hpath habsolute hvariables hcontent
  · exact load_eq_ofEnvironment (fileFields_of_not_pathExists hpath hmissing)
  · rw [← defaultPaths_of_place? hhere]
    refine ⟨fun p hfirst => ⟨load_of_isFirstExisting hpath hfirst, ?_⟩, fun hnone => ?_⟩
    · intro here' hhere' hfirst' habsolute hcontent
      rw [← defaultPaths_of_place? hhere'] at hfirst'
      rw [load_of_isFirstExisting hpath hfirst, load_of_isFirstExisting hpath hfirst']
      exact sameOutcome_load_of_content? rfl habsolute hvariables hcontent
    · exact load_eq_ofEnvironment (fileFields_of_none_exists hpath hnone)
  · exact load_congr_of_same_files hnodes hdirectory hvariables huser

/-- A level that is no text stands in a file that is asked for, or found at the first default place.
Other files at other default places, another working directory and other variables make no
difference, and nothing takes the place of a file that is missing. -/
theorem load_depends_on_chosen_file_of_number :
    let p := Path.ofText "/e/vmf.toml"
    let files := [([[101]], .directory),
      ([[101], fileName], .file (Text.utf8 "logging.level = 3"))]
    let given := (" vmf__registry.discover", "no")
    let w : World := ⟨files, ⟨[[101]], 0⟩, [("VMF_LOG", "trace"), given], none⟩
    let fromRoot : World :=
      ⟨files ++ [([fileName], .file [])], .root, [given, ("HOME", "/e"), ("VMF", "1")], none⟩
    let withSecond : World :=
      ⟨files ++ [([[101], directoryName], .directory),
        ([[101], directoryName, fileName], .file [])], ⟨[[101]], 0⟩, [given, ("HOME", "/e")], none⟩
    let withoutLog : World := { w with environment := [given] }
    let asking : Loader := ⟨some p, "VMF"⟩
    let missing : Loader := ⟨some (Path.ofText "/e/other.toml"), "VMF"⟩
    SameOutcome (asking.load w) (asking.load fromRoot) ∧
      missing.load w = missing.ofEnvironment w.environment ∧
      Loader.default.load w = asking.load w ∧
      SameOutcome (Loader.default.load w) (Loader.default.load withSecond) ∧
      Loader.default.load w = Loader.default.load withoutLog := by
  intro p files given w fromRoot withSecond withoutLog asking missing
  have hroot : matchingVariables "VMF" w.environment =
      matchingVariables "VMF" fromRoot.environment := by cbv
  have hsecond : matchingVariables "VMF" w.environment =
      matchingVariables "VMF" withSecond.environment := by cbv
  have hlog : matchingVariables "VMF" w.environment =
      matchingVariables "VMF" withoutLog.environment := by cbv
  have hfirst : w.IsFirstExisting (placesFrom [[101]] (userDirectory? w)) p :=
    ⟨[], _, rfl, rfl, List.forall_mem_nil _⟩
  have hfirst' : withSecond.IsFirstExisting (placesFrom [[101]] (userDirectory? withSecond)) p :=
    ⟨[], _, rfl, rfl, List.forall_mem_nil _⟩
  obtain ⟨hasked, -, -⟩ := load_depends_on_chosen_file asking w fromRoot hroot
  obtain ⟨hmissing, -, -⟩ := load_depends_on_chosen_file missing w fromRoot hroot
  obtain ⟨-, hfound, -⟩ := load_depends_on_chosen_file Loader.default w withSecond hsecond
  obtain ⟨-, -, hsame⟩ := load_depends_on_chosen_file Loader.default w withoutLog hlog
  obtain ⟨hload, hlater⟩ := (hfound rfl _ rfl).1 p hfirst
  exact ⟨(hasked p rfl).1 rfl rfl, (hmissing _ rfl).2 rfl, hload,
    hlater _ rfl hfirst' rfl rfl, hsame rfl rfl fun _ => rfl⟩

/-- From a working directory that was removed, the file of the user is not found, though it is there
and can be asked for. -/
theorem not_load_user_file_in_removed_directory :
    let c : Config := ⟨⟨"debug", false, none⟩, .default⟩
    let user := Path.ofText "/u"
    let p := (user.join directoryName).join fileName
    let files := [([[117]], .directory), ([[117], directoryName], .directory),
      ([[117], directoryName, fileName], .file (c.written none))]
    let environment := [("XDG_CONFIG_HOME", "/u")]
    let before : World := ⟨files ++ [([[103]], .directory)], ⟨[[103]], 0⟩, environment, none⟩
    let w : World := ⟨files, ⟨[], 1⟩, environment, none⟩
    before.removeDirectory? (Path.ofText "/g") = some w ∧ userDirectory? w = some user ∧
      w.pathExists p = true ∧ load ⟨some p, "VMF"⟩ w = .ok c ∧
      Loader.default.load w = .ok .default ∧ Config.default ≠ c := by
  intro c user p files environment before w
  have hcontent : w.content? p = some (c.written none) := rfl
  have hnothing : Config.matching "VMF" w.environment = [] := by cbv
  obtain ⟨_, hfields⟩ := exists_fileFields_of_written "VMF" hcontent (.inl rfl)
  have hload : load ⟨some p, "VMF"⟩ w = .ok c :=
    load_eq_ok_of_layer rfl hfields hnothing ⟨.debug, by cbv⟩ (List.forall_mem_nil _)
  exact ⟨rfl, rfl, rfl, hload, load_eq_default rfl hnothing, by decide⟩

end StateHolders.Loader
