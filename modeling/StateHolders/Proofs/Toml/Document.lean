import Mathlib.Data.List.Forall2
import StateHolders.Proofs.Toml.Text

/-!
# Written documents are read back

A document is cut into pieces, one for each statement. Each piece is read as its statement before
any rest, so a document is read as the statements of its pieces.
-/

namespace StateHolders.Toml

/-! ## Values -/

/-- The text is read as the value, and as no more than it, before the end of a line. -/
structure ReadsValue (written : List Char) (v : Value) : Prop where
  /-- It begins with no blank. -/
  begins : ∃ c more, written = c :: more ∧ isSpace c = false
  /-- The value is read, and the end of the line is left. -/
  reads : ∀ rest, scanValue maxDepth (written ++ '\n' :: rest) = some (v, '\n' :: rest)

/-- A written text begins with a mark. -/
theorem writtenText_eq_cons (s : String) :
    ∃ mark more, writtenText s = mark :: more ∧ (mark = '"' ∨ mark = '\'') := by
  simp only [writtenText]
  split
  · exact ⟨_, _, rfl, .inl rfl⟩
  · exact ⟨_, _, rfl, .inr rfl⟩
  · exact ⟨_, _, rfl, .inl rfl⟩
  · exact ⟨_, _, rfl, .inr rfl⟩

/-- A written text is read as a value. -/
theorem scanValue_writtenText (depth : Nat) (s : String) {rest : List Char}
    (hquote : NoMark '"' rest) (happ : NoMark '\'' rest) :
    scanValue depth (writtenText s ++ rest) = some (.text s, rest) := by
  have hscan := scanText_writtenText s hquote happ
  obtain ⟨mark, more, heq, rfl | rfl⟩ := writtenText_eq_cons s
  · rw [heq, List.cons_append] at hscan ⊢
    unfold scanValue
    dsimp only
    rw [hscan]
    rfl
  · rw [heq, List.cons_append] at hscan ⊢
    unfold scanValue
    dsimp only
    rw [hscan]
    rfl

theorem readsValue_writtenText (s : String) : ReadsValue (writtenText s) (.text s) where
  begins := by
    obtain ⟨mark, more, heq, rfl | rfl⟩ := writtenText_eq_cons s
    · exact ⟨_, _, heq, rfl⟩
    · exact ⟨_, _, heq, rfl⟩
  reads rest := scanValue_writtenText maxDepth s (by simp [NoMark]) (by simp [NoMark])

theorem readsValue_writtenTruth (b : Bool) : ReadsValue (writtenTruth b) (.truth b) where
  begins := by
    cases b
    · exact ⟨_, _, rfl, rfl⟩
    · exact ⟨_, _, rfl, rfl⟩
  reads rest := by
    cases b
    · rfl
    · rfl

/-! ## Arrays of texts -/

/-- Nothing is skipped before a written text. -/
theorem skipTrivia_writtenText (s : String) (rest : List Char) :
    skipTrivia false (writtenText s ++ rest) = some (writtenText s ++ rest) := by
  obtain ⟨mark, more, heq, rfl | rfl⟩ := writtenText_eq_cons s
  · rw [heq]
    rfl
  · rw [heq]
    rfl

/-- A written text is read as an item, and then what follows it. -/
theorem scanItems_writtenText (depth fuel : Nat) (s : String) {mark : Char} (rest : List Char)
    (hmark : mark = ',' ∨ mark = ']') :
    scanItems (scanValue depth) (fuel + 1) (writtenText s ++ mark :: rest) =
      if mark = ',' then
        (scanItems (scanValue depth) fuel rest).map fun (items, r) => (.text s :: items, r)
      else some ([.text s], rest) := by
  have hitem : scanValue depth (writtenText s ++ mark :: rest) = some (.text s, mark :: rest) := by
    rcases hmark with rfl | rfl
    · exact scanValue_writtenText depth s (by simp [NoMark]) (by simp [NoMark])
    · exact scanValue_writtenText depth s (by simp [NoMark]) (by simp [NoMark])
  rw [scanItems, skipTrivia_writtenText, Option.bind_some]
  obtain ⟨first, more, heq, hfirst⟩ := writtenText_eq_cons s
  rw [heq, List.cons_append] at hitem ⊢
  have hbracket : first ≠ ']' := by
    rcases hfirst with rfl | rfl
    · decide
    · decide
  split
  case h_1 h => exact absurd (List.cons.inj h).1 hbracket
  case h_2 =>
    rw [hitem]
    rcases hmark with rfl | rfl
    · rfl
    · rfl

/-- Texts on lines of their own are read as items. -/
theorem scanItems_flatMap_writtenItem (depth : Nat) (items : List String) {fuel : Nat}
    (hfuel : items.length < fuel) (rest : List Char) :
    scanItems (scanValue depth) fuel ('\n' :: items.flatMap writtenItem ++ ']' :: rest) =
      some (items.map .text, rest) := by
  induction items generalizing fuel with
  | nil =>
    obtain ⟨fuel, rfl⟩ := Nat.exists_eq_succ_of_ne_zero (Nat.ne_zero_of_lt hfuel)
    rfl
  | cons s items ih =>
    obtain ⟨fuel, rfl⟩ := Nat.exists_eq_succ_of_ne_zero (Nat.ne_zero_of_lt hfuel)
    have hindent (cs : List Char) : scanItems (scanValue depth) (fuel + 1)
        ('\n' :: ' ' :: ' ' :: ' ' :: ' ' :: cs) = scanItems (scanValue depth) (fuel + 1) cs := rfl
    have htext : '\n' :: (s :: items).flatMap writtenItem ++ ']' :: rest =
        '\n' :: ' ' :: ' ' :: ' ' :: ' ' :: (writtenText s ++ ',' ::
          ('\n' :: items.flatMap writtenItem ++ ']' :: rest)) := by
      simp [writtenItem]
    rw [htext, hindent, scanItems_writtenText depth fuel s _ (.inl rfl), if_pos rfl,
      ih (by simpa using hfuel)]
    rfl

theorem scanValue_list (depth : Nat) (rest : List Char) :
    scanValue (depth + 1) ('[' :: rest) =
      (scanItems (scanValue depth) (rest.length + 1) rest).map fun (items, r) =>
        (.list items, r) := rfl

/-- Every item has a line, so there are no more items than characters. -/
theorem length_le_length_flatMap_writtenItem (items : List String) :
    items.length ≤ (items.flatMap writtenItem).length := by
  induction items with
  | nil => exact Nat.le_refl 0
  | cons s items ih =>
    have hitem : 0 < (writtenItem s).length := by simp [writtenItem]
    simp only [List.flatMap_cons, List.length_append, List.length_cons]
    omega

theorem readsValue_writtenTexts (names : List String) :
    ReadsValue (writtenTexts names) (.list (names.map .text)) where
  begins := by
    unfold writtenTexts
    split
    · exact ⟨_, _, rfl, rfl⟩
    · exact ⟨_, _, rfl, rfl⟩
    · exact ⟨_, _, rfl, rfl⟩
  reads rest := by
    unfold writtenTexts
    split
    case h_1 => rfl
    case h_2 s =>
      have htext : '[' :: writtenText s ++ [']'] ++ '\n' :: rest =
          '[' :: (writtenText s ++ ']' :: '\n' :: rest) := by
        simp
      rw [htext, maxDepth, scanValue_list, scanItems_writtenText _ _ s _ (.inr rfl)]
      rfl
    case h_3 =>
      have htext : "[\n".toList ++ names.flatMap writtenItem ++ [']'] ++ '\n' :: rest =
          '[' :: ('\n' :: names.flatMap writtenItem ++ ']' :: '\n' :: rest) := by
        simp
      have hfuel : names.length <
          ('\n' :: names.flatMap writtenItem ++ ']' :: '\n' :: rest).length + 1 := by
        have := length_le_length_flatMap_writtenItem names
        simp only [List.length_append, List.length_cons]
        omega
      rw [htext, maxDepth, scanValue_list, scanItems_flatMap_writtenItem _ names hfuel]
      rfl

/-! ## Statements -/

/-- The text is read as the statement, whatever follows it. -/
def ReadsStatement (piece : List Char) (s : Statement) : Prop :=
  ∀ fuel rest, scanStatements (fuel + 1) (piece ++ rest) = (scanStatements fuel rest).map (s :: ·)

/-- A line is read as a statement if the scanner of statements takes it whole. -/
theorem readsStatement_of_scanStatement {line : List Char} {s : Statement}
    (hbegins : ∃ c more, line = c :: more ∧ ∀ rest, skipTrivia false (c :: rest) = some (c :: rest))
    (h : ∀ rest, scanStatement (line ++ '\n' :: rest) = some (s, '\n' :: rest)) :
    ReadsStatement (line ++ ['\n']) s := by
  intro fuel rest
  obtain ⟨c, more, rfl, hc⟩ := hbegins
  have hscan := h rest
  rw [List.cons_append] at hscan
  have htext : c :: more ++ ['\n'] ++ rest = c :: (more ++ '\n' :: rest) := by
    simp
  rw [htext, scanStatements, hc, Option.bind_some]
  rw [if_neg (by simp), hscan]
  rfl

/-- Empty lines before a statement are skipped. -/
theorem ReadsStatement.afterEmptyLine {piece : List Char} {s : Statement}
    (h : ReadsStatement piece s) : ReadsStatement ('\n' :: piece) s :=
  fun fuel rest => h fuel rest

/-- A key that can be written without marks. -/
def isBareKey (key : String) : Bool := !key.toList.isEmpty && key.toList.all isBareKeyChar

theorem ne_of_isBareKeyChar {c d : Char} (hc : isBareKeyChar c = true)
    (hd : isBareKeyChar d = false) : c ≠ d := by
  rintro rfl
  rw [hc] at hd
  cases hd

theorem isSpace_of_isBareKeyChar {c : Char} (hc : isBareKeyChar c = true) : isSpace c = false := by
  have hspace : c ≠ ' ' := ne_of_isBareKeyChar hc rfl
  have htab : c ≠ '\t' := ne_of_isBareKeyChar hc rfl
  simp [isSpace, hspace, htab]

theorem skipSpaces_of_isSpace_eq_false {c : Char} (hc : isSpace c = false) (rest : List Char) :
    skipSpaces (c :: rest) = c :: rest := by
  simp [skipSpaces, hc]

/-- Nothing is skipped before a key. -/
theorem skipTrivia_of_isBareKeyChar {c : Char} (hc : isBareKeyChar c = true) (rest : List Char) :
    skipTrivia false (c :: rest) = some (c :: rest) := by
  have hline : c ≠ '\n' := ne_of_isBareKeyChar hc rfl
  have hreturn : c ≠ '\r' := ne_of_isBareKeyChar hc rfl
  have hcomment : c ≠ '#' := ne_of_isBareKeyChar hc rfl
  simp [skipTrivia, isSpace_of_isBareKeyChar hc, hline, hreturn, hcomment]

theorem toList_ne_nil_of_isBareKey {key : String} (hkey : isBareKey key = true) :
    key.toList ≠ [] := by
  rw [isBareKey, Bool.and_eq_true] at hkey
  simpa using hkey.1

theorem isBareKeyChar_of_mem {key : String} (hkey : isBareKey key = true) :
    ∀ c ∈ key.toList, isBareKeyChar c = true := by
  rw [isBareKey, Bool.and_eq_true] at hkey
  exact List.all_eq_true.mp hkey.2

theorem toList_eq_cons_of_isBareKey {key : String} (hkey : isBareKey key = true) :
    ∃ c more, key.toList = c :: more ∧ isBareKeyChar c = true := by
  obtain ⟨c, more, heq⟩ := List.exists_cons_of_ne_nil (toList_ne_nil_of_isBareKey hkey)
  exact ⟨c, more, heq, isBareKeyChar_of_mem hkey c (by simp [heq])⟩

theorem scanKeyPart_append {key : String} (hkey : isBareKey key = true) {c : Char}
    (hc : isBareKeyChar c = false) (rest : List Char) :
    scanKeyPart (key.toList ++ c :: rest) = some (key, c :: rest) := by
  have htake : (key.toList ++ c :: rest).takeWhile isBareKeyChar = key.toList := by
    rw [List.takeWhile_append_of_pos (isBareKeyChar_of_mem hkey)]
    simp [hc]
  have hdrop : (key.toList ++ c :: rest).dropWhile isBareKeyChar = c :: rest := by
    rw [List.dropWhile_append_of_pos (isBareKeyChar_of_mem hkey)]
    simp [hc]
  obtain ⟨first, more, heq, hfirst⟩ := toList_eq_cons_of_isBareKey hkey
  unfold scanKeyPart
  split
  case h_1 h =>
    rw [heq] at h
    exact absurd (List.cons.inj h).1 (ne_of_isBareKeyChar hfirst rfl)
  case h_2 h =>
    rw [heq] at h
    exact absurd (List.cons.inj h).1 (ne_of_isBareKeyChar hfirst rfl)
  case h_3 => simp [htake, hdrop, toList_ne_nil_of_isBareKey hkey]

/-- A key of one part is read up to what follows it. -/
theorem scanKey_append {key : String} (hkey : isBareKey key = true) {c next : Char}
    {rest more : List Char} (hc : isBareKeyChar c = false)
    (hskip : skipSpaces (c :: rest) = next :: more) (hnext : next ≠ '.') :
    scanKey maxKeyParts (key.toList ++ c :: rest) = some ([key], next :: more) := by
  rw [maxKeyParts, scanKey, scanKeyPart_append hkey hc, Option.bind_some]
  dsimp only
  rw [hskip]
  split
  case h_1 h => exact absurd (List.cons.inj h).1 hnext
  case h_2 => rfl

/-- A line with a key in brackets opens a table. -/
theorem readsStatement_header (key : String) (hkey : isBareKey key = true) :
    ReadsStatement ('[' :: key.toList ++ [']'] ++ ['\n']) (.header [key]) := by
  refine readsStatement_of_scanStatement ⟨_, _, rfl, fun _ => rfl⟩ fun rest => ?_
  have hscan : scanKey maxKeyParts (key.toList ++ ']' :: '\n' :: rest) =
      some ([key], ']' :: '\n' :: rest) :=
    scanKey_append hkey rfl rfl (by decide)
  have htext : '[' :: key.toList ++ [']'] ++ '\n' :: rest =
      '[' :: (key.toList ++ ']' :: '\n' :: rest) := by
    simp
  rw [htext]
  obtain ⟨first, more, heq, hfirst⟩ := toList_eq_cons_of_isBareKey hkey
  rw [heq, List.cons_append] at hscan ⊢
  unfold scanStatement
  split
  case h_1 h =>
    exact absurd (List.cons.inj (List.cons.inj h).2).1 (ne_of_isBareKeyChar hfirst rfl)
  case h_2 h =>
    rw [← (List.cons.inj h).2, skipSpaces_of_isSpace_eq_false (isSpace_of_isBareKeyChar hfirst),
      hscan]
    rfl
  case h_3 h => exact absurd rfl (h _)

/-- A line with a key and a value gives the value to the key. -/
theorem readsStatement_assign (key : String) (hkey : isBareKey key = true) {written : List Char}
    {v : Value} (h : ReadsValue written v) :
    ReadsStatement (key.toList ++ " = ".toList ++ written ++ ['\n']) (.assign [key] v) := by
  obtain ⟨first, more, heq, hfirst⟩ := toList_eq_cons_of_isBareKey hkey
  refine readsStatement_of_scanStatement ⟨first, _, by rw [heq]; rfl,
    skipTrivia_of_isBareKeyChar hfirst⟩ fun rest => ?_
  have hvalue : skipSpaces (' ' :: (written ++ '\n' :: rest)) = written ++ '\n' :: rest := by
    obtain ⟨c, more, rfl, hc⟩ := h.begins
    exact skipSpaces_of_isSpace_eq_false hc _
  have hscan : scanKey maxKeyParts (key.toList ++ ' ' :: '=' :: ' ' :: (written ++ '\n' :: rest)) =
      some ([key], '=' :: ' ' :: (written ++ '\n' :: rest)) :=
    scanKey_append hkey rfl rfl (by decide)
  have hassignment : scanAssignment (scanValue maxDepth)
      (key.toList ++ ' ' :: '=' :: ' ' :: (written ++ '\n' :: rest)) =
        some (([key], v), '\n' :: rest) := by
    rw [scanAssignment, hscan, Option.bind_some]
    change (scanValue maxDepth (skipSpaces (' ' :: (written ++ '\n' :: rest)))).map _ = _
    rw [hvalue, h.reads]
    rfl
  have htext : key.toList ++ " = ".toList ++ written ++ '\n' :: rest =
      key.toList ++ ' ' :: '=' :: ' ' :: (written ++ '\n' :: rest) := by
    simp
  have hbracket : first ≠ '[' := ne_of_isBareKeyChar hfirst rfl
  rw [htext]
  rw [heq, List.cons_append] at hassignment ⊢
  unfold scanStatement
  split
  case h_1 h => exact absurd (List.cons.inj h).1 hbracket
  case h_2 h => exact absurd (List.cons.inj h).1 hbracket
  case h_3 =>
    rw [hassignment]
    rfl

/-! ## Documents -/

theorem ReadsStatement.ne_nil {piece : List Char} {s : Statement} (h : ReadsStatement piece s) :
    piece ≠ [] := by
  rintro rfl
  cases h 0 []

/-- A text cut into pieces that are read as statements is read as these statements. -/
theorem scanStatements_flatten {pieces : List (List Char)} {statements : List Statement}
    (h : List.Forall₂ ReadsStatement pieces statements) {fuel : Nat}
    (hfuel : pieces.flatten.length < fuel) :
    scanStatements fuel pieces.flatten = some statements := by
  induction h generalizing fuel with
  | nil =>
    obtain ⟨fuel, rfl⟩ := Nat.exists_eq_succ_of_ne_zero (Nat.ne_zero_of_lt hfuel)
    rfl
  | cons hfirst _ ih =>
    obtain ⟨fuel, rfl⟩ := Nat.exists_eq_succ_of_ne_zero (Nat.ne_zero_of_lt hfuel)
    have hlength := List.length_pos_iff.mpr hfirst.ne_nil
    rw [List.flatten_cons, List.length_append] at hfuel
    rw [List.flatten_cons, hfirst, ih (by omega)]
    rfl

theorem dropByteOrderMark_of_head?_ne {cs : List Char} (h : cs.head? ≠ some '\uFEFF') :
    dropByteOrderMark cs = cs := by
  cases cs with
  | nil => rfl
  | cons c rest =>
    rw [dropByteOrderMark, if_neg]
    rintro rfl
    exact h rfl

/-- The table that a document describes is the one that the statements of its pieces describe. -/
theorem parse?_flatten {pieces : List (List Char)} {statements : List Statement}
    (h : List.Forall₂ ReadsStatement pieces statements)
    (hmark : pieces.flatten.head? ≠ some '\uFEFF') :
    parse? (String.ofList pieces.flatten) = (applyAll [] [] statements).map finishEntries := by
  simp only [parse?, String.toList_ofList, dropByteOrderMark_of_head?_ne hmark,
    scanStatements_flatten h (Nat.lt_succ_self _), Option.bind_some]

end StateHolders.Toml
