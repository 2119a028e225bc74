import StateHolders.Logging.Log
import StateHolders.Proofs.Logging.Level

/-!
# The filter that a level spells

If no variable spells a filter, the text of the level does. The level is accepted by one reader and
the filter is made by another one, for which a word is a level or else the beginning of a target.
They agree on every word for a level but the longer one of a warning: with that word the filter
asks for targets that begin with it, and lets nothing else pass.
-/

namespace StateHolders

/-! ## Words -/

namespace Text

/-- The letters are two spans of code points. -/
theorem isAlpha_iff (c : Char) : c.isAlpha = true ↔
    65 ≤ c.toNat ∧ c.toNat ≤ 90 ∨ 97 ≤ c.toNat ∧ c.toNat ≤ 122 := by
  simp [Char.isAlpha, Char.isUpper, Char.isLower, UInt32.le_iff_toNat_le]

theorem isBlank_of_isAlpha {c : Char} (h : c.isAlpha = true) : isBlank c = false := by
  rw [isAlpha_iff] at h
  rw [← Bool.not_eq_true, isBlank]
  simp only [Bool.or_eq_true, Bool.and_eq_true, decide_eq_true_eq, beq_iff_eq]
  omega

theorem isAlphanumeric_of_isAlpha {c : Char} (h : c.isAlpha = true) : isAlphanumeric c = true := by
  have hascii : c.toNat < 0x80 := by
    rw [isAlpha_iff] at h
    omega
  rw [isAlphanumeric_ascii hascii, Char.isAlphanum, h, Bool.true_or]

/-- Trimming leaves a text without blanks as it is. -/
theorem trim_eq_self {cs : List Char} (h : ∀ c ∈ cs, isBlank c = false) : trim cs = cs := by
  have hdrop {cs : List Char} (h : ∀ c ∈ cs, isBlank c = false) : cs.dropWhile isBlank = cs := by
    cases cs with
    | nil => rfl
    | cons c rest => rw [List.dropWhile_cons_of_neg (by simp [h c])]
  rw [trim, hdrop h, hdrop fun c hc => h c (List.mem_reverse.mp hc), List.reverse_reverse]

end Text

namespace Logging

/-! ## A word as a directive -/

/-- A word is no number. -/
theorem number?_of_isWord {cs : List Char} (h : IsWord cs) : number? cs = none := by
  obtain ⟨c, rest, rfl⟩ := List.exists_cons_of_ne_nil h.ne_nil
  have hdigit : c.isDigit = false := by
    have halpha := (Text.isAlpha_iff c).mp (h.isAlpha c List.mem_cons_self)
    rw [← Bool.not_eq_true]
    simp only [Char.isDigit, ge_iff_le, UInt32.le_iff_toNat_le, Bool.and_eq_true,
      decide_eq_true_eq]
    change ¬(48 ≤ c.toNat ∧ c.toNat ≤ 57)
    omega
  have hplus : c ≠ '+' := h.ne rfl c List.mem_cons_self
  unfold number?
  split
  · rename_i heq
    exact absurd (List.cons.inj heq).1 hplus
  · simp [hdigit]

namespace Directive

/-- Before a sign of equality or a bracket, a directive is a level or a target. -/
theorem read_levelOrTarget (text : List Char) (i : Nat) (d : Directive) {cs : List Char}
    (h : ∀ c ∈ cs, c ≠ '=' ∧ c ≠ '[') :
    read text i .levelOrTarget d cs = .ok (levelOrTarget text) := by
  induction cs generalizing i with
  | nil => rfl
  | cons c rest ih =>
    obtain ⟨⟨heq, hbracket⟩, hrest⟩ := List.forall_mem_cons.mp h
    simp only [read, beq_iff_eq, heq, hbracket, if_false, ih _ hrest]

/-- A word is a level or a target. -/
theorem ofText_of_isWord {cs : List Char} (h : IsWord cs) :
    ofText cs = .ok (levelOrTarget cs) := by
  obtain ⟨c, rest, rfl⟩ := List.exists_cons_of_ne_nil h.ne_nil
  have hbegin : canBegin c = true := by
    rw [canBegin, Text.isAlphanumeric_of_isAlpha (h.isAlpha c List.mem_cons_self), Bool.or_true]
  have hbracket : c ≠ '[' := h.ne rfl c List.mem_cons_self
  have hmarks : ∀ d ∈ rest, d ≠ '=' ∧ d ≠ '[' := fun d hd =>
    ⟨h.ne rfl d (List.mem_cons_of_mem c hd), h.ne rfl d (List.mem_cons_of_mem c hd)⟩
  rw [ofText, Text.trim_eq_self fun d hd => Text.isBlank_of_isAlpha (h.isAlpha d hd)]
  simp only [read, beq_iff_eq, hbracket, if_false, hbegin, if_true]
  exact read_levelOrTarget _ _ _ hmarks

/-- A word for a level, but for the longer one of a warning, is read as that level. -/
theorem levelOrTarget_of_mem_words {s : String} {l : Level} (h : s.toLower ∈ l.words)
    (hwarning : s.toLower ≠ "warning") : levelOrTarget s.toList = ofThreshold (some l) := by
  have hthreshold : threshold? s.toList = some (some l) := by
    rw [threshold?, number?_of_isWord (Level.isWord_of_mem_words h),
      ← Text.toList_toLower, String.ofList_toList]
    generalize s.toLower = w at h hwarning
    revert w
    cases l <;> simp [Level.words]
  rw [levelOrTarget, hthreshold]

/-- The longer word for a warning is read as a target. -/
theorem levelOrTarget_of_warning {s : String} (h : s.toLower = "warning") :
    levelOrTarget s.toList = { all with target := some s.toList } := by
  have hword : s.toLower ∈ Level.warn.words := by simp [h, Level.words]
  have hthreshold : threshold? s.toList = none := by
    rw [threshold?, number?_of_isWord (Level.isWord_of_mem_words hword),
      ← Text.toList_toLower, String.ofList_toList, h]
    rfl
  rw [levelOrTarget, hthreshold]

end Directive

/-! ## A word as a filter -/

namespace Filter

theorem splitAtCommas_of_not_mem {cs : List Char} (h : ',' ∉ cs) : splitAtCommas cs = [cs] := by
  induction cs with
  | nil => rfl
  | cons c rest ih =>
    rw [List.mem_cons, not_or] at h
    obtain ⟨hc, hrest⟩ := h
    simp [splitAtCommas, ih hrest, Ne.symm hc]

/-- A word is one part, and one directive. -/
theorem ofTextLossy_of_isWord {s : String} (h : IsWord s.toList) :
    ofTextLossy s = ⟨[Directive.levelOrTarget s.toList]⟩ := by
  have hcomma : ',' ∉ s.toList := fun hmem => h.ne rfl _ hmem rfl
  simp [ofTextLossy, parts, splitAtCommas_of_not_mem hcomma, h.ne_nil,
    Directive.ofText_of_isWord h, Except.toOption, ofDirectives]

/-- A single directive decides about every event that it concerns. -/
theorem enabled_single (d : Directive) (level : Level) (target : String)
    (fields : List String) : enabled ⟨[d]⟩ level target fields =
      (d.concerns target.toList (fields.map String.toList) && passes d.threshold level) := by
  rw [enabled, deciding?]
  cases hconcerns : d.concerns target.toList (fields.map String.toList) with
  | true => simp [hconcerns]
  | false => simp [hconcerns]

variable {s : String} (level : Level) (target : String) (fields : List String)

/-- The filter of a word for a level lets pass what is at least as severe. -/
theorem enabled_of_mem_words {l : Level} (h : s.toLower ∈ l.words)
    (hwarning : s.toLower ≠ "warning") :
    (ofTextLossy s).enabled level target fields = true ↔ l.severity ≤ level.severity := by
  rw [ofTextLossy_of_isWord (Level.isWord_of_mem_words h),
    Directive.levelOrTarget_of_mem_words h hwarning, enabled_single]
  simp [Directive.concerns, Directive.ofThreshold, Directive.all, passes]

/-- The filter of the longer word for a warning lets pass, at every level, what comes from targets
that begin with this word. -/
theorem enabled_of_warning (h : s.toLower = "warning") :
    (ofTextLossy s).enabled level target fields = true ↔ s.toList <+: target.toList := by
  have hword : s.toLower ∈ Level.warn.words := by simp [h, Level.words]
  rw [ofTextLossy_of_isWord (Level.isWord_of_mem_words hword),
    Directive.levelOrTarget_of_warning h, enabled_single]
  simp [Directive.concerns, Directive.all, passes, Level.severity]

end Filter

/-! ## Installing the log -/

variable {j : Journal} {config : LoggingConfig} {l : Level}

/-- Making the log file installs nothing. -/
theorem log_openLog {path : Option Path} {today : String} {opened : Journal × Option Location}
    (h : openLog j path today = .ok opened) : opened.1.log = j.log := by
  cases path with
  | none =>
    obtain rfl := Except.ok.inj h
    rfl
  | some p =>
    rw [openLog] at h
    split at h
    · cases h
    · obtain rfl := Except.ok.inj h
      dsimp only [Journal.openFile]
      split
      · rfl
      · rfl

theorem Journal.log_emit (j : Journal) (e : Event) : (j.emit e).log = j.log := by
  rw [emit]
  split
  · rfl
  · split
    · rfl
    · rfl

/-- If the level is accepted, no variable spells a filter and no log is installed, only the log
file can prevent the installation. The log then has the filter that the level spells. -/
theorem install_of_parse (hlevel : Level.parse config.level = .ok l)
    (hvariable : j.world.valueOf? filterVariable = none) (hlog : j.log = none) (today : String) :
    (∀ f, openLog j config.fileOutput today = .error f →
      install j config today = .aborted (.file f)) ∧
    ∀ opened, openLog j config.fileOutput today = .ok opened →
      ∃ j', install j config today = .finished (.ok ()) j' ∧
        j'.log = some ⟨.ofTextLossy config.level, config.jsonFormat, opened.2⟩ := by
  have hfilter : chosenFilter? j.world config.level = some (.ofTextLossy config.level) := by
    rw [chosenFilter?, hvariable]
  refine ⟨fun f hfile => ?_, fun opened hfile => ?_⟩
  · simp only [install, hlevel, hfilter, hfile]
  · have hopened : opened.1.log = none := (log_openLog hfile).trans hlog
    simp only [install, hlevel, hfilter, hfile, hopened]
    exact ⟨_, rfl, Journal.log_emit _ _⟩

/-- An accepted level takes effect, if no variable spells a filter and no log is installed: once
the log file is made, an event of any target is logged exactly if it is at least as severe as the
level. The one exception is the longer word for a warning. With it an event is logged, whatever its
level, exactly if its target begins with the word as it is written. -/
theorem install_applies_level (hlevel : Level.parse config.level = .ok l)
    (hvariable : j.world.valueOf? filterVariable = none) (hlog : j.log = none) (today : String) :
    (∀ f, openLog j config.fileOutput today = .error f →
      install j config today = .aborted (.file f)) ∧
    ∀ opened, openLog j config.fileOutput today = .ok opened →
      ∃ j' log, install j config today = .finished (.ok ()) j' ∧ j'.log = some log ∧
        ∀ (level : Level) (target : String) (fields : List String),
          log.filter.enabled level target fields = true ↔
            if config.level.toLower = "warning" then config.level.toList <+: target.toList
            else l.severity ≤ level.severity := by
  obtain ⟨hfails, hinstalls⟩ := install_of_parse hlevel hvariable hlog today
  refine ⟨hfails, fun opened hfile => ?_⟩
  obtain ⟨j', hinstall, hlog'⟩ := hinstalls opened hfile
  refine ⟨j', _, hinstall, hlog', fun level target fields => ?_⟩
  have hword := (Level.parse_eq_ok_iff config.level l).mp hlevel
  split
  case isTrue hwarning => exact Filter.enabled_of_warning level target fields hwarning
  case isFalse hwarning => exact Filter.enabled_of_mem_words level target fields hword hwarning

/-- The shorter word for a warning, in mixed case, lets errors pass and leaves out progress. -/
theorem install_applies_level_of_warn :
    let config : LoggingConfig := ⟨"WaRn", true, none⟩
    let j := Journal.start ⟨[], .root, [("VMF_LOGS", "trace")], none⟩
    Level.parse config.level = .ok .warn ∧ j.world.valueOf? filterVariable = none ∧
      j.log = none ∧ ∃ j' log, install j config "2024-02-29" = .finished (.ok ()) j' ∧
        j'.log = some log ∧ (∀ target, log.filter.enabled .error target [] = true) ∧
        ∀ target, ¬log.filter.enabled .info target [] = true := by
  intro config j
  have hlevel : Level.parse config.level = .ok .warn := by cbv
  have hvariable : j.world.valueOf? filterVariable = none := by decide
  obtain ⟨-, hinstalls⟩ := install_applies_level hlevel hvariable rfl "2024-02-29"
  obtain ⟨j', log, hinstall, hlog, henabled⟩ := hinstalls _ rfl
  have hlower : config.level.toLower = "warn" := by cbv
  have hword : config.level.toLower ≠ "warning" := by
    rw [hlower]
    decide
  simp only [if_neg hword] at henabled
  refine ⟨hlevel, hvariable, rfl, j', log, hinstall, hlog, fun target => ?_, fun target => ?_⟩
  · rw [henabled]
    decide
  · rw [henabled]
    decide

/-- With the longer word for a warning, the container's warnings are left out, and so are errors,
while the finest detail passes from targets that begin with the word. -/
theorem not_install_applies_level_of_warning :
    let config : LoggingConfig := ⟨"warning", false, none⟩
    let j := Journal.start ⟨[], .root, [], none⟩
    Level.parse config.level = .ok .warn ∧ j.world.valueOf? filterVariable = none ∧
      j.log = none ∧ ∃ j' log, install j config "2024-02-29" = .finished (.ok ()) j' ∧
        j'.log = some log ∧
        log.filter.enabled .warn Target.assembly.path ["message", "holder"] = false ∧
        log.filter.enabled .error Target.creation.path ["message"] = false ∧
        log.filter.enabled .trace "warnings" [] = true ∧
        ¬∀ (level : Level) (target : String) (fields : List String),
          log.filter.enabled level target fields = true ↔
            Level.warn.severity ≤ level.severity := by
  intro config j
  have hlevel : Level.parse config.level = .ok .warn := by cbv
  have hvariable : j.world.valueOf? filterVariable = none := by decide
  obtain ⟨-, hinstalls⟩ := install_of_parse hlevel hvariable rfl "2024-02-29"
  obtain ⟨j', hinstall, hlog⟩ := hinstalls _ rfl
  have henabled (level : Level) (target : String) (fields : List String) :
      (Filter.ofTextLossy config.level).enabled level target fields = true ↔
        config.level.toList <+: target.toList :=
    Filter.enabled_of_warning level target fields (by cbv)
  have hwarn : (Filter.ofTextLossy config.level).enabled .warn Target.assembly.path
      ["message", "holder"] = false := by
    rw [← Bool.not_eq_true, henabled]
    decide
  refine ⟨hlevel, hvariable, rfl, j', _, hinstall, hlog, hwarn, ?_, ?_, fun hall => ?_⟩
  · rw [← Bool.not_eq_true, henabled]
    decide
  · rw [henabled]
    decide
  · have hpasses := (hall .warn Target.assembly.path ["message", "holder"]).mpr le_rfl
    rw [hwarn] at hpasses
    cases hpasses

end Logging

end StateHolders
