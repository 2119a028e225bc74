import StateHolders.Logging.Level
import StateHolders.Proofs.Text.Lowercase

/-!
# The words of the levels

A text names a level exactly if it is one of six words, but for the case of ASCII letters. What
other characters become in lower case does not matter: the only one that becomes an ASCII letter
becomes a `k`, and no word for a level has that letter. So a text with anything but ASCII letters in
it is refused, as is every other text, and the error quotes it as it is.
-/

namespace StateHolders

/-- A text that consists of ASCII letters. -/
structure IsWord (cs : List Char) : Prop where
  /-- There is a letter. -/
  ne_nil : cs ≠ []
  /-- There is nothing else. -/
  isAlpha : ∀ c ∈ cs, c.isAlpha = true

/-- No character in a word is a mark. -/
theorem IsWord.ne {cs : List Char} (h : IsWord cs) {mark : Char} (hmark : mark.isAlpha = false) :
    ∀ c ∈ cs, c ≠ mark := by
  rintro c hc rfl
  rw [h.isAlpha c hc] at hmark
  cases hmark

namespace Level

/-- The words for a level. A warning has two. -/
def words : Level → List String
  | .trace => ["trace"]
  | .debug => ["debug"]
  | .info => ["info"]
  | .warn => ["warn", "warning"]
  | .error => ["error"]

/-- The letters of the words have no other lower case than their own. -/
theorem isSettled_of_mem_words {l : Level} {w : String} (h : w ∈ l.words) :
    ∀ c ∈ w.toList, Text.IsSettled c := by
  revert w
  cases l <;> simp [words, Text.IsSettled]

/-- A text names a level exactly if it is a word for it, but for the case of ASCII letters. -/
theorem ofText?_eq_some_iff (s : String) (l : Level) :
    ofText? s = some l ↔ s.toLower ∈ l.words := by
  constructor
  · intro h
    have hmem : Text.lowercase s ∈ l.words := by
      rw [ofText?] at h
      split at h
      case h_7 => cases h
      all_goals
        obtain rfl := Option.some.inj h
        simp [words, *]
    rwa [(Text.lowercase_eq_iff (isSettled_of_mem_words hmem)).mp rfl]
  · intro h
    rw [ofText?, (Text.lowercase_eq_iff (isSettled_of_mem_words h)).mpr rfl]
    generalize s.toLower = w at h
    revert w
    cases l <;> decide

theorem parse_eq_ok_iff (s : String) (l : Level) :
    parse s = .ok l ↔ s.toLower ∈ l.words := by
  rw [← ofText?_eq_some_iff, parse]
  cases ofText? s with
  | none => simp
  | some other => simp

/-- What names a level is a word. -/
theorem isWord_of_mem_words {s : String} {l : Level} (h : s.toLower ∈ l.words) :
    IsWord s.toList := by
  have hwords : ∀ w ∈ l.words, w.toList ≠ [] ∧ ∀ c ∈ w.toList, c.isAlpha = true := by
    cases l <;> simp [words]
  obtain ⟨hne, halpha⟩ := hwords _ h
  rw [Text.toList_toLower] at hne halpha
  constructor
  · rintro hnil
    rw [hnil] at hne
    exact hne rfl
  · intro c hc
    rw [← Char.isAlpha_toLower_eq_isAlpha]
    exact halpha _ (List.mem_map_of_mem hc)

/-- A text is refused exactly if it names no level, and the error quotes it. -/
theorem parse_eq_error_iff (s : String) (e : Error) :
    parse s = .error e ↔ (∀ l : Level, s.toLower ∉ l.words) ∧ e = invalid s := by
  constructor
  · intro h
    have hnone : ofText? s = none := by
      rw [parse] at h
      cases ht : ofText? s with
      | none => rfl
      | some l =>
        rw [ht] at h
        cases h
    refine ⟨fun l hl => ?_, ?_⟩
    · rw [(ofText?_eq_some_iff s l).mpr hl] at hnone
      cases hnone
    · rw [parse, hnone] at h
      exact (Except.error.inj h).symm
  · rintro ⟨hno, rfl⟩
    have hnone : ofText? s = none := by
      rw [Option.eq_none_iff_forall_ne_some]
      exact fun l hl => hno l ((ofText?_eq_some_iff s l).mp hl)
    rw [parse, hnone]

/-- The words, each with its level. -/
theorem mem_words_iff (w : String) (l : Level) :
    w ∈ l.words ↔ (w, l) ∈ [("trace", Level.trace), ("debug", .debug), ("info", .info),
      ("warn", .warn), ("warning", .warn), ("error", .error)] := by
  cases l <;> simp [words]

theorem exists_mem_words_iff (w : String) : (∃ l : Level, w ∈ l.words) ↔
    w ∈ ["trace", "debug", "info", "warn", "warning", "error"] := by
  simp only [mem_words_iff]
  simp [exists_or]

/-- A text is accepted exactly if it is one of six words, but for the case of ASCII letters, and
then names the level of this word. Every other text is refused with an error that quotes it; among
them is every text with a character that is not an ASCII letter, be it a blank or one whose lower
case has ASCII letters. -/
theorem parse_accepts_words (s : String) :
    let refusal : Error := .configuration
      ("Invalid log level: " ++ s ++ ". Use trace, debug, info, warn, or error") none
    (∀ l, parse s = .ok l ↔ (s.toLower, l) ∈ [("trace", Level.trace), ("debug", .debug),
      ("info", .info), ("warn", .warn), ("warning", .warn), ("error", .error)]) ∧
    (∀ e, parse s = .error e ↔
      s.toLower ∉ ["trace", "debug", "info", "warn", "warning", "error"] ∧ e = refusal) ∧
    ∀ c ∈ s.toList, c.isAlpha = false → parse s = .error refusal := by
  intro refusal
  refine ⟨fun l => ?_, fun e => ?_, fun c hc halpha => ?_⟩
  · rw [parse_eq_ok_iff, mem_words_iff]
  · rw [parse_eq_error_iff]
    exact and_congr_left fun _ => not_exists.symm.trans (not_congr (exists_mem_words_iff _))
  · refine (parse_eq_error_iff s _).mpr ⟨fun l hl => ?_, rfl⟩
    rw [(isWord_of_mem_words hl).isAlpha c hc] at halpha
    cases halpha

/-- The longer word for a warning is accepted in mixed case. It is refused with a blank before it,
and so are a word that begins with the dotted capital, whose lower case begins with an `i`, and one
that ends in the Kelvin sign, whose lower case is a `k`. -/
theorem parse_accepts_words_of_mixed_case :
    let refusal := fun s : String => Error.configuration
      ("Invalid log level: " ++ s ++ ". Use trace, debug, info, warn, or error") none
    parse "WaRnInG" = .ok .warn ∧ parse " warning" = .error (refusal " warning") ∧
      parse "İNFO" = .error (refusal "İNFO") ∧
      parse "warn\u212A" = .error (refusal "warn\u212A") ∧
      parse "warnings" = .error (refusal "warnings") := by
  intro refusal
  have hlower : "WaRnInG".toLower = "warning" := by cbv
  have hlonger : "warnings".toLower = "warnings" := by cbv
  have hwarning := (parse_accepts_words "WaRnInG").1 .warn
  have hletters (s : String) := (parse_accepts_words s).2.2
  have hwords := (parse_accepts_words "warnings").2.1 (refusal "warnings")
  rw [hlower] at hwarning
  rw [hlonger] at hwords
  refine ⟨hwarning.mpr (by decide), ?_, ?_, ?_, hwords.mpr ⟨by decide, rfl⟩⟩
  · exact hletters " warning" ' ' (by decide) (by decide)
  · exact hletters "İNFO" 'İ' (by decide) (by decide)
  · exact hletters "warn\u212A" '\u212A' (by decide) (by decide)

end Level

end StateHolders
