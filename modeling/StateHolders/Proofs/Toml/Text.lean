import StateHolders.Toml.Document
import StateHolders.Toml.Written

/-!
# Written texts are read back

Whatever characters a text has, the form in which it is written is read back as the text, and what
follows it is left. All that may not follow is another mark, which could be taken for a part of the
closing ones.
-/

namespace StateHolders.Toml

/-! ## Escapes -/

/-- The scanner reads escapes and shown characters of a text one by one. The texts with escapes, on
one line and on several, differ only in marks and line ends. -/
structure ReadsEscapes (scan : EscapeState → Scan (List Char)) : Prop where
  /-- A letter after a backslash stands for a character. -/
  letter : ∀ {c d : Char} (rest : List Char), letterEscape? c = some d →
    scan .plain ('\\' :: c :: rest) = consChar d (scan .plain rest)
  /-- A code point of four digits begins. -/
  code : ∀ rest : List Char, scan .plain ('\\' :: 'u' :: rest) = scan (.code 3 0) rest
  /-- A digit that is not the last. -/
  digit : ∀ {c : Char} {d : Nat} (left value : Nat) (rest : List Char),
    Text.hexValue? c = some d →
      scan (.code (left + 1) value) (c :: rest) = scan (.code left (value * 16 + d)) rest
  /-- The last digit. -/
  lastDigit : ∀ {c e : Char} {d value : Nat} (rest : List Char), Text.hexValue? c = some d →
    Text.charOfCode? (value * 16 + d) = some e →
      scan (.code 0 value) (c :: rest) = consChar e (scan .plain rest)
  /-- Other characters stand for themselves. -/
  shown : ∀ {c : Char} (rest : List Char), isPrintable c = true → c ≠ '"' → c ≠ '\\' →
    scan .plain (c :: rest) = consChar c (scan .plain rest)

theorem readsEscapes_basicText : ReadsEscapes basicText where
  letter := by
    intro c d rest h
    simp [basicText, h]
  code := by
    intro rest
    simp [basicText, letterEscape?, codeEscape?]
  digit := by
    intro c d left value rest h
    simp [basicText, h]
  lastDigit := by
    intro c e d value rest h he
    simp [basicText, h, he]
  shown := by
    intro c rest h hmark hslash
    simp [basicText, h, hmark, hslash]

/-- A letter that makes an escape is not skipped after a backslash. -/
theorem isSkipped_of_letterEscape? {c d : Char} (h : letterEscape? c = some d) :
    isSkipped c = false := by
  unfold letterEscape? at h
  split at h
  all_goals first | rfl | cases h

theorem readsEscapes_multilineBasicText : ReadsEscapes multilineBasicText where
  letter := by
    intro c d rest h
    simp [multilineBasicText, startsSkipped, isSkipped_of_letterEscape? h, h]
  code := by
    intro rest
    have hu : isSkipped 'u' = false := rfl
    simp [multilineBasicText, startsSkipped, hu, letterEscape?, codeEscape?]
  digit := by
    intro c d left value rest h
    simp [multilineBasicText, h]
  lastDigit := by
    intro c e d value rest h he
    simp [multilineBasicText, h, he]
  shown := by
    intro c rest h hmark hslash
    have hreturn : c ≠ '\r' := by
      rintro rfl
      cases h
    simp [multilineBasicText, h, hmark, hslash, hreturn]

/-- A control character is below the code points that need more than four digits. -/
theorem toNat_lt_of_isControl {c : Char} (h : isControl c = true) : c.toNat < 0x10000 := by
  simp only [isControl, Bool.or_eq_true, Bool.and_eq_true, decide_eq_true_eq, beq_iff_eq] at h
  omega

/-- Every other character but the line feed may stand in a text. -/
theorem isPrintable_of_isControl_eq_false {c : Char} (h : isControl c = false) (hline : c ≠ '\n') :
    isPrintable c = true := by
  by_cases htab : c = '\t'
  · subst htab
    rfl
  · have hcode : ¬c.toNat < 0x20 ∧ c.toNat ≠ 0x7F := by
      simpa [isControl, htab, hline] using h
    simp only [isPrintable, Bool.or_eq_true, Bool.and_eq_true, decide_eq_true_eq, bne_iff_ne]
    exact .inr ⟨by omega, hcode.2⟩

/-- A written digit has its value. -/
theorem hexValue?_digitChar {d : Nat} (h : d < 16) :
    Text.hexValue? (Nat.digitChar d).toUpper = some d := by
  revert d
  decide

namespace ReadsEscapes

variable {scan : EscapeState → Scan (List Char)}

/-- Four written digits are read back as the code point. -/
theorem hexDigits4 (h : ReadsEscapes scan) {c : Char} (hc : c.toNat < 0x10000)
    (rest : List Char) :
    scan .plain (['\\', 'u'] ++ Toml.hexDigits4 c.toNat ++ rest) =
      consChar c (scan .plain rest) := by
  have hvalue (n : Nat) : Text.hexValue? (Nat.digitChar (n % 16)).toUpper = some (n % 16) :=
    hexValue?_digitChar (Nat.mod_lt n (by decide))
  have hcode : (((0 * 16 + c.toNat / 4096 % 16) * 16 + c.toNat / 256 % 16) * 16 +
      c.toNat / 16 % 16) * 16 + c.toNat % 16 = c.toNat := by
    omega
  have hchar : Text.charOfCode? ((((0 * 16 + c.toNat / 4096 % 16) * 16 + c.toNat / 256 % 16) * 16 +
      c.toNat / 16 % 16) * 16 + c.toNat % 16) = some c := by
    rw [hcode, Text.charOfCode?_toNat]
  simp only [Toml.hexDigits4, List.map_cons, List.map_nil, List.cons_append, List.nil_append]
  rw [h.code, h.digit _ _ _ (hvalue _), h.digit _ _ _ (hvalue _), h.digit _ _ _ (hvalue _),
    h.lastDigit _ (hvalue _) hchar]

/-- Every character that needs no treatment of its own is read back from its escape. -/
theorem escapedChar (h : ReadsEscapes scan) {c : Char} (hmark : c ≠ '"') (hline : c ≠ '\n')
    (rest : List Char) :
    scan .plain (Toml.escapedChar c ++ rest) = consChar c (scan .plain rest) := by
  unfold Toml.escapedChar
  split
  case h_6 hslash =>
    split
    case isTrue hcontrol => exact h.hexDigits4 (toNat_lt_of_isControl hcontrol) rest
    case isFalse hcontrol =>
      have hprintable : isPrintable c = true :=
        isPrintable_of_isControl_eq_false (by simpa using hcontrol) hline
      exact h.shown rest hprintable hmark hslash
  all_goals exact h.letter rest rfl

end ReadsEscapes

/-! ## Marks -/

/-- What may follow a text: anything but its own mark, which could be taken for a part of the
closing ones. -/
def NoMark (mark : Char) (rest : List Char) : Prop := rest.head? ≠ some mark

/-- The number of marks at the beginning of a text. -/
def leading (mark : Char) (cs : List Char) : Nat := (cs.takeWhile (· == mark)).length

theorem leading_cons (mark c : Char) (cs : List Char) :
    leading mark (c :: cs) = if c = mark then leading mark cs + 1 else 0 := by
  rw [leading, List.takeWhile_cons]
  by_cases h : c = mark <;> simp [leading, h]

theorem leading_eq_zero {mark : Char} {rest : List Char} (h : NoMark mark rest) :
    leading mark rest = 0 := by
  cases rest with
  | nil => rfl
  | cons c rest => simpa [NoMark, leading_cons] using h

/-- What is written for a character that needs no treatment of its own begins with a character of a
line, and not with a quotation mark. -/
theorem escapedChar_eq_cons {c : Char} (hmark : c ≠ '"') (hline : c ≠ '\n') :
    ∃ first more, escapedChar c = first :: more ∧ isPrintable first = true ∧ first ≠ '"' := by
  unfold escapedChar
  split
  case h_6 =>
    split
    case isTrue => exact ⟨_, _, rfl, rfl, by decide⟩
    case isFalse hcontrol =>
      exact ⟨_, _, rfl, isPrintable_of_isControl_eq_false (by simpa using hcontrol) hline, hmark⟩
  all_goals exact ⟨_, _, rfl, rfl, by decide⟩

/-! ## Texts on one line -/

theorem basicBody_mark (cs : List Char) :
    basicBody ('"' :: cs) = '\\' :: '"' :: basicBody cs := rfl

theorem basicBody_line (cs : List Char) :
    basicBody ('\n' :: cs) = '\\' :: 'n' :: basicBody cs := rfl

theorem basicBody_other {c : Char} (hmark : c ≠ '"') (hline : c ≠ '\n') (cs : List Char) :
    basicBody (c :: cs) = escapedChar c ++ basicBody cs := by
  simp [basicBody, hmark, hline]

/-- A text between quotation marks. -/
theorem basicText_basicBody (cs rest : List Char) :
    basicText .plain (basicBody cs ++ '"' :: rest) = some (cs, rest) := by
  induction cs with
  | nil => simp [basicBody, basicText]
  | cons c cs ih =>
    by_cases hmark : c = '"'
    · subst hmark
      rw [basicBody_mark, List.cons_append, List.cons_append, readsEscapes_basicText.letter _ rfl,
        ih]
      rfl
    · by_cases hline : c = '\n'
      · subst hline
        rw [basicBody_line, List.cons_append, List.cons_append,
          readsEscapes_basicText.letter _ rfl, ih]
        rfl
      · rw [basicBody_other hmark hline, List.append_assoc,
          readsEscapes_basicText.escapedChar hmark hline, ih]
        rfl

/-- No mark of its own begins a written text. -/
theorem leading_basicBody_append (cs : List Char) {rest : List Char} (hrest : NoMark '"' rest) :
    leading '"' (basicBody cs ++ '"' :: rest) ≤ 1 := by
  cases cs with
  | nil => simp [basicBody, leading_cons, leading_eq_zero hrest]
  | cons c cs =>
    by_cases hmark : c = '"'
    · subst hmark
      exact Nat.zero_le 1
    · by_cases hline : c = '\n'
      · subst hline
        exact Nat.zero_le 1
      · obtain ⟨first, more, hescape, -, hfirst⟩ := escapedChar_eq_cons hmark hline
        simp [basicBody_other hmark hline, hescape, leading_cons, hfirst]

/-- A text between apostrophes. -/
theorem literalText_append {cs : List Char} (hcontrols : cs.any isControl = false)
    (hline : cs.contains '\n' = false) (hmark : cs.contains '\'' = false) (rest : List Char) :
    literalText (cs ++ '\'' :: rest) = some (cs, rest) := by
  induction cs with
  | nil => simp [literalText]
  | cons c cs ih =>
    simp only [List.any_cons, List.contains_cons, Bool.or_eq_false_iff] at hcontrols hline hmark
    have hc : isPrintable c = true :=
      isPrintable_of_isControl_eq_false hcontrols.1 (fun h => by simp [h] at hline)
    have hc' : (c == '\'') = false := by
      rw [beq_eq_false_iff_ne] at hmark ⊢
      exact fun h => hmark.1 h.symm
    simp [literalText, hc, hc', ih hcontrols.2 hline.2 hmark.2, consChar]

/-- No mark of its own begins a text that has none. -/
theorem leading_append_le {cs rest : List Char} (hmark : cs.contains '\'' = false)
    (hrest : NoMark '\'' rest) : leading '\'' (cs ++ '\'' :: rest) ≤ 1 := by
  cases cs with
  | nil => simp [leading_cons, leading_eq_zero hrest]
  | cons c cs =>
    have hc : c ≠ '\'' := by
      rintro rfl
      simp at hmark
    simp [leading_cons, hc]

/-! ## Texts on several lines -/

/-- Three marks close what begins with fewer than three, and only where nothing but marks comes
before them. -/
theorem closing?_append {mark : Char} {body rest : List Char} (hlead : leading mark body ≤ 2)
    (hrest : NoMark mark rest) :
    closing? mark (body ++ mark :: mark :: mark :: rest) =
      if body.all (· == mark) then some (body, rest) else none := by
  have hnext : ∀ c more, rest = c :: more → (c == mark) = false := by
    rintro c more rfl
    simpa [NoMark] using hrest
  -- The scanner looks at five characters, of which the third decides.
  match body with
  | [] =>
    cases rest with
    | nil => simp [closing?]
    | cons c more => cases more <;> simp [closing?, hnext c _ rfl]
  | [a] =>
    by_cases ha : a = mark
    · cases rest with
      | nil => simp [closing?, ha]
      | cons c more => simp [closing?, ha, hnext c _ rfl]
    · simp [closing?, ha]
  | [a, b] =>
    by_cases ha : a = mark <;> by_cases hb : b = mark <;> simp [closing?, ha, hb]
  | a :: b :: c :: more =>
    have hnot : ¬(a = mark ∧ b = mark ∧ c = mark) := by
      rintro ⟨rfl, rfl, rfl⟩
      simp [leading] at hlead
    by_cases ha : a = mark <;> by_cases hb : b = mark <;> by_cases hc : c = mark <;>
      simp_all [closing?]

theorem closing?_marks {mark : Char} {rest : List Char} (hrest : NoMark mark rest) :
    closing? mark (mark :: mark :: mark :: rest) = some ([], rest) :=
  @closing?_append mark [] rest (Nat.zero_le 2) hrest

/-- Fewer marks begin a text than stand next to each other nowhere in it. -/
theorem leading_lt_of_hasRun_eq_false {mark : Char} {count seen : Nat} {cs : List Char}
    (h : hasRun mark count seen cs = false) : seen + leading mark cs < count := by
  induction cs generalizing seen with
  | nil => simpa [hasRun, leading] using h
  | cons c cs ih =>
    simp only [hasRun, Bool.or_eq_false_iff, decide_eq_false_iff_not] at h
    by_cases hc : c = mark
    · simp only [hc, beq_self_eq_true, if_true] at h
      have hrest : seen + 1 + leading mark cs < count := ih h.2
      rw [leading_cons, if_pos hc]
      omega
    · rw [leading_cons, if_neg hc]
      simpa using h.1

/-- The fewer marks stand before a text, the fewer are in a row. -/
theorem hasRun_eq_false_of_le {mark : Char} {count seen fewer : Nat} {cs : List Char}
    (hle : fewer ≤ seen) (h : hasRun mark count seen cs = false) :
    hasRun mark count fewer cs = false := by
  induction cs generalizing seen fewer with
  | nil =>
    simp only [hasRun, decide_eq_false_iff_not] at h ⊢
    omega
  | cons c cs ih =>
    simp only [hasRun, Bool.or_eq_false_iff, decide_eq_false_iff_not] at h ⊢
    refine ⟨by omega, ih ?_ h.2⟩
    split <;> omega

/-- A text of several lines between apostrophes. -/
theorem multilineLiteralText_append {cs rest : List Char} (hcontrols : cs.any isControl = false)
    (hrun : hasRun '\'' 3 0 cs = false) (hrest : NoMark '\'' rest) :
    multilineLiteralText (cs ++ '\'' :: '\'' :: '\'' :: rest) = some (cs, rest) := by
  induction cs with
  | nil =>
    rw [List.nil_append, multilineLiteralText, closing?_marks hrest]
    rfl
  | cons c cs ih =>
    have hlead : leading '\'' (c :: cs) ≤ 2 := by
      have := leading_lt_of_hasRun_eq_false hrun
      omega
    have hclosing := closing?_append hlead hrest
    rw [List.any_cons, Bool.or_eq_false_iff] at hcontrols
    rw [hasRun, Bool.or_eq_false_iff] at hrun
    have ih := ih hcontrols.2 (hasRun_eq_false_of_le (Nat.zero_le _) hrun.2)
    by_cases hmark : c = '\''
    · subst hmark
      rw [List.cons_append] at hclosing ⊢
      rw [multilineLiteralText, if_pos (beq_self_eq_true _), hclosing, ih]
      by_cases hall : ('\'' :: cs).all (· == '\'') = true
      · rw [if_pos hall]
      · rw [if_neg hall]
        rfl
    · have hreturn : c ≠ '\r' := by
        rintro rfl
        cases hcontrols.1
      have hshown : c = '\n' ∨ isPrintable c = true := by
        by_cases hline : c = '\n'
        · exact .inl hline
        · exact .inr (isPrintable_of_isControl_eq_false hcontrols.1 hline)
      simp [multilineLiteralText, hmark, hreturn, hshown, ih, consChar]

/-! What is written on several lines, character by character. -/

theorem multilineBasicBody_third_mark (rest : List Char) :
    multilineBasicBody 2 ('"' :: rest) = '\\' :: '"' :: multilineBasicBody 0 rest := rfl

theorem multilineBasicBody_mark {seen : Nat} (h : seen ≠ 2) (rest : List Char) :
    multilineBasicBody seen ('"' :: rest) = '"' :: multilineBasicBody (seen + 1) rest := by
  simp [multilineBasicBody, h]

theorem multilineBasicBody_line (seen : Nat) (rest : List Char) :
    multilineBasicBody seen ('\n' :: rest) = '\n' :: multilineBasicBody 0 rest := rfl

theorem multilineBasicBody_other (seen : Nat) {c : Char} (hmark : c ≠ '"') (hline : c ≠ '\n')
    (rest : List Char) :
    multilineBasicBody seen (c :: rest) = escapedChar c ++ multilineBasicBody 0 rest := by
  simp [multilineBasicBody, hmark, hline]

/-- Of marks in a row, those that stand before it included, a written text begins with two. -/
theorem leading_multilineBasicBody {seen : Nat} (hseen : seen ≤ 2) (cs : List Char) :
    seen + leading '"' (multilineBasicBody seen cs) ≤ 2 := by
  induction cs generalizing seen with
  | nil => simpa [multilineBasicBody, leading] using hseen
  | cons c cs ih =>
    by_cases hmark : c = '"'
    · subst hmark
      by_cases hthird : seen = 2
      · subst hthird
        simp [multilineBasicBody_third_mark, leading]
      · have hnext := @ih (seen + 1) (by omega)
        rw [multilineBasicBody_mark hthird, leading_cons, if_pos rfl]
        omega
    · by_cases hline : c = '\n'
      · subst hline
        simpa [multilineBasicBody_line, leading] using hseen
      · obtain ⟨first, more, hescape, -, hfirst⟩ := escapedChar_eq_cons hmark hline
        simpa [multilineBasicBody_other seen hmark hline, hescape, leading, hfirst] using hseen

/-- A written text of marks only is written as it is. -/
theorem multilineBasicBody_eq_of_all {seen : Nat} {cs : List Char}
    (h : (multilineBasicBody seen cs).all (· == '"') = true) : multilineBasicBody seen cs = cs := by
  induction cs generalizing seen with
  | nil => rfl
  | cons c cs ih =>
    by_cases hmark : c = '"'
    · subst hmark
      by_cases hthird : seen = 2
      · subst hthird
        simp [multilineBasicBody_third_mark] at h
      · rw [multilineBasicBody_mark hthird, List.all_cons, Bool.and_eq_true] at h
        rw [multilineBasicBody_mark hthird, ih h.2]
    · by_cases hline : c = '\n'
      · subst hline
        simp [multilineBasicBody_line] at h
      · obtain ⟨first, more, hescape, -, hfirst⟩ := escapedChar_eq_cons hmark hline
        simp [multilineBasicBody_other seen hmark hline, hescape, hfirst] at h

/-- A text of several lines between quotation marks. -/
theorem multilineBasicText_multilineBasicBody {seen : Nat} (hseen : seen ≤ 2) (cs : List Char)
    {rest : List Char} (hrest : NoMark '"' rest) :
    multilineBasicText .plain (multilineBasicBody seen cs ++ '"' :: '"' :: '"' :: rest) =
      some (cs, rest) := by
  induction cs generalizing seen with
  | nil =>
    rw [multilineBasicBody, List.nil_append, multilineBasicText, closing?_marks hrest]
    rfl
  | cons c cs ih =>
    by_cases hmark : c = '"'
    · subst hmark
      by_cases hthird : seen = 2
      · subst hthird
        rw [multilineBasicBody_third_mark, List.cons_append, List.cons_append,
          readsEscapes_multilineBasicText.letter _ rfl, ih (Nat.zero_le 2)]
        rfl
      · -- Before a mark the scanner asks whether the text ends here, so what follows has to answer.
        have hlead : leading '"' (multilineBasicBody seen ('"' :: cs)) ≤ 2 := by
          have := leading_multilineBasicBody hseen ('"' :: cs)
          omega
        have hclosing := closing?_append hlead hrest
        rw [multilineBasicBody_mark hthird, List.cons_append] at hclosing ⊢
        rw [multilineBasicText, if_pos (beq_self_eq_true _), hclosing, ih (by omega)]
        by_cases hall : ('"' :: multilineBasicBody (seen + 1) cs).all (· == '"') = true
        · rw [if_pos hall, ← multilineBasicBody_mark hthird, multilineBasicBody_eq_of_all]
          rwa [multilineBasicBody_mark hthird]
        · rw [if_neg hall]
          rfl
    · by_cases hline : c = '\n'
      · subst hline
        rw [multilineBasicBody_line, List.cons_append, multilineBasicText, ih (Nat.zero_le 2)]
        rfl
      · rw [multilineBasicBody_other seen hmark hline, List.append_assoc,
          readsEscapes_multilineBasicText.escapedChar hmark hline, ih (Nat.zero_le 2)]
        rfl

/-! ## Texts in the form in which they are written -/

/-- The line end after the opening marks is dropped, and nothing else. -/
theorem dropFirstLineEnd_append {cs body : List Char}
    (h : '\n' ∉ cs → ∃ c rest, body = c :: rest ∧ isPrintable c = true) :
    dropFirstLineEnd (firstLineEnd cs ++ body) = body := by
  rw [firstLineEnd]
  by_cases hline : '\n' ∈ cs
  · simp [hline, dropFirstLineEnd]
  · obtain ⟨c, rest, rfl, hc⟩ := h hline
    simp only [List.contains_eq_mem, hline, decide_false, Bool.false_eq_true, if_false,
      List.nil_append]
    unfold dropFirstLineEnd
    split
    case h_1 h => cases h; cases hc
    case h_2 h => cases h; cases hc
    case h_3 => rfl

/-- A text without line feeds begins on its line. -/
theorem multilineBasicBody_append_eq_cons {cs : List Char} (h : '\n' ∉ cs) (rest : List Char) :
    ∃ c more, multilineBasicBody 0 cs ++ '"' :: rest = c :: more ∧ isPrintable c = true := by
  cases cs with
  | nil => exact ⟨_, _, rfl, rfl⟩
  | cons c cs =>
    by_cases hmark : c = '"'
    · subst hmark
      exact ⟨_, _, rfl, rfl⟩
    · have hline : c ≠ '\n' := fun hc => h (by simp [hc])
      obtain ⟨first, more, hescape, hfirst, -⟩ := escapedChar_eq_cons hmark hline
      exact ⟨first, _, by rw [multilineBasicBody_other 0 hmark hline, hescape]; rfl, hfirst⟩

theorem append_eq_cons_of_isControl {cs : List Char} (hcontrols : cs.any isControl = false)
    (h : '\n' ∉ cs) (rest : List Char) :
    ∃ c more, cs ++ '\'' :: rest = c :: more ∧ isPrintable c = true := by
  cases cs with
  | nil => exact ⟨_, _, rfl, rfl⟩
  | cons c cs =>
    rw [List.any_cons, Bool.or_eq_false_iff] at hcontrols
    have hline : c ≠ '\n' := fun hc => h (by simp [hc])
    exact ⟨c, _, rfl, isPrintable_of_isControl_eq_false hcontrols.1 hline⟩

/-- A text that is written as it is has no control characters, and no mark where it could close the
text. -/
theorem Form.of_eq_literal {cs : List Char} (h : Form.of cs = .literal) :
    cs.any isControl = false ∧ cs.contains '\n' = false ∧ cs.contains '\'' = false := by
  grind [Form.of]

theorem Form.of_eq_multilineLiteral {cs : List Char} (h : Form.of cs = .multilineLiteral) :
    cs.any isControl = false ∧ hasRun '\'' 3 0 cs = false := by
  grind [Form.of]

/-- One mark opens a text on one line, unless two more follow. -/
theorem scanText_basic {t : List Char} (h : leading '"' t ≤ 1) :
    scanText ('"' :: t) = (basicText .plain t).map fun (t, r) => (String.ofList t, r) := by
  unfold scanText
  split
  case h_1 heq =>
    obtain rfl := (List.cons.inj heq).2
    simp [leading] at h
  case h_2 heq => rw [(List.cons.inj heq).2]
  all_goals simp_all

theorem scanText_literal {t : List Char} (h : leading '\'' t ≤ 1) :
    scanText ('\'' :: t) = (literalText t).map fun (t, r) => (String.ofList t, r) := by
  unfold scanText
  split
  case h_3 heq =>
    obtain rfl := (List.cons.inj heq).2
    simp [leading] at h
  case h_4 heq => rw [(List.cons.inj heq).2]
  all_goals simp_all

/-- A text is read back from the form in which it is written. -/
theorem scanText_writtenText (s : String) {rest : List Char} (hquote : NoMark '"' rest)
    (happ : NoMark '\'' rest) : scanText (writtenText s ++ rest) = some (s, rest) := by
  cases hform : Form.of s.toList with
  | basic =>
    have htext : writtenText s ++ rest = '"' :: (basicBody s.toList ++ '"' :: rest) := by
      simp [writtenText, hform]
    rw [htext, scanText_basic (leading_basicBody_append s.toList hquote), basicText_basicBody]
    simp
  | literal =>
    obtain ⟨hcontrols, hline, hmark⟩ := Form.of_eq_literal hform
    have htext : writtenText s ++ rest = '\'' :: (s.toList ++ '\'' :: rest) := by
      simp [writtenText, hform]
    rw [htext, scanText_literal (leading_append_le hmark happ),
      literalText_append hcontrols hline hmark]
    simp
  | multilineBasic =>
    have htext : writtenText s ++ rest = '"' :: '"' :: '"' :: (firstLineEnd s.toList ++
        (multilineBasicBody 0 s.toList ++ '"' :: '"' :: '"' :: rest)) := by
      simp [writtenText, hform]
    rw [htext, scanText, dropFirstLineEnd_append fun h => multilineBasicBody_append_eq_cons h _,
      multilineBasicText_multilineBasicBody (Nat.zero_le 2) _ hquote]
    simp
  | multilineLiteral =>
    obtain ⟨hcontrols, hrun⟩ := Form.of_eq_multilineLiteral hform
    have htext : writtenText s ++ rest = '\'' :: '\'' :: '\'' :: (firstLineEnd s.toList ++
        (s.toList ++ '\'' :: '\'' :: '\'' :: rest)) := by
      simp [writtenText, hform]
    rw [htext, scanText, dropFirstLineEnd_append fun h => append_eq_cons_of_isControl hcontrols h _,
      multilineLiteralText_append hcontrols hrun happ]
    simp

end StateHolders.Toml
