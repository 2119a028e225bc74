import StateHolders.Text.Quoted

/-!
# Bytes as text

Names and paths are byte strings that are usually, but not always, the encoding of a text. The
decoder splits any byte string into characters and ill-formed sequences, an ill-formed sequence
being as long as it could still have become a character. A path is shown with one replacement
character for each of them.
-/

namespace StateHolders.Text

/-- The encoding of a text. -/
def utf8 (s : String) : List UInt8 := s.toUTF8.data.toList

/-- The text that the bytes encode, if they encode one. -/
def ofUtf8? (bytes : List UInt8) : Option String := String.fromUTF8? ⟨bytes.toArray⟩

/-- A part of a byte string. -/
inductive Utf8Piece where
  /-- A character. -/
  | char (c : Char)
  /-- Bytes that begin no character. -/
  | illFormed (bytes : List UInt8)

/-- Whether the byte continues a character. -/
def isContinuation (b : UInt8) : Bool := 0x80 ≤ b && b ≤ 0xBF

/-- Whether `second` can follow the lead byte of a character of three bytes. -/
def fitsThree (lead second : UInt8) : Bool :=
  if lead == 0xE0 then 0xA0 ≤ second && second ≤ 0xBF
  else if lead == 0xED then 0x80 ≤ second && second ≤ 0x9F
  else isContinuation second

/-- Whether `second` can follow the lead byte of a character of four bytes. -/
def fitsFour (lead second : UInt8) : Bool :=
  if lead == 0xF0 then 0x90 ≤ second && second ≤ 0xBF
  else if lead == 0xF4 then 0x80 ≤ second && second ≤ 0x8F
  else isContinuation second

/-- The character whose leading bits are `lead` and whose further bits the continuation bytes
give, six each. -/
def charOfBits (lead : Nat) (more : List UInt8) : Char :=
  Char.ofNat (more.foldl (fun n b => n * 64 + (b.toNat - 0x80)) lead)

/-- The characters and ill-formed sequences of a byte string, in order. -/
def utf8Pieces : List UInt8 → List Utf8Piece
  | [] => []
  | a :: afterA =>
    if a < 0x80 then .char (Char.ofNat a.toNat) :: utf8Pieces afterA
    else if 0xC2 ≤ a && a ≤ 0xDF then
      match afterA with
      | b :: afterB =>
        if isContinuation b then .char (charOfBits (a.toNat - 0xC0) [b]) :: utf8Pieces afterB
        else .illFormed [a] :: utf8Pieces (b :: afterB)
      | [] => [.illFormed [a]]
    else if 0xE0 ≤ a && a ≤ 0xEF then
      match afterA with
      | b :: afterB =>
        if fitsThree a b then
          match afterB with
          | c :: afterC =>
            if isContinuation c then
              .char (charOfBits (a.toNat - 0xE0) [b, c]) :: utf8Pieces afterC
            else .illFormed [a, b] :: utf8Pieces (c :: afterC)
          | [] => [.illFormed [a, b]]
        else .illFormed [a] :: utf8Pieces (b :: afterB)
      | [] => [.illFormed [a]]
    else if 0xF0 ≤ a && a ≤ 0xF4 then
      match afterA with
      | b :: afterB =>
        if fitsFour a b then
          match afterB with
          | c :: afterC =>
            if isContinuation c then
              match afterC with
              | d :: afterD =>
                if isContinuation d then
                  .char (charOfBits (a.toNat - 0xF0) [b, c, d]) :: utf8Pieces afterD
                else .illFormed [a, b, c] :: utf8Pieces (d :: afterD)
              | [] => [.illFormed [a, b, c]]
            else .illFormed [a, b] :: utf8Pieces (c :: afterC)
          | [] => [.illFormed [a, b]]
        else .illFormed [a] :: utf8Pieces (b :: afterB)
      | [] => [.illFormed [a]]
    else .illFormed [a] :: utf8Pieces afterA

/-- The bytes as a text to read, with a replacement character for each ill-formed sequence. -/
def shownBytes (bytes : List UInt8) : String :=
  String.ofList <| (utf8Pieces bytes).map fun
    | .char c => c
    | .illFormed _ => '\uFFFD'

/-- Two upper-case hexadecimal digits. -/
def hexByte (b : UInt8) : List Char :=
  [Nat.digitChar (b.toNat / 16), Nat.digitChar (b.toNat % 16)].map Char.toUpper

/-- The bytes in quotation marks, ill-formed ones in hexadecimal. -/
def quotedBytes (bytes : List UInt8) : String :=
  String.ofList <| '"' :: ((utf8Pieces bytes).flatMap fun
    | .char c => quotedChar c
    | .illFormed bad => bad.flatMap fun b => ['\\', 'x'] ++ hexByte b) ++ ['"']

/-- Whether the encoding of `a` does not come after that of `b`. -/
def precedes (a b : String) : Bool := utf8 a ≤ utf8 b

/-- The encoding determines the text. -/
theorem ofUtf8?_utf8 (s : String) : ofUtf8? (utf8 s) = some s := by
  change String.fromUTF8? s.toByteArray = some s
  rw [String.fromUTF8?, dif_pos s.isValidUTF8]
  rfl

/-- Bytes that encode a text are its encoding. -/
theorem utf8_of_ofUtf8? {bytes : List UInt8} {s : String} (h : ofUtf8? bytes = some s) :
    utf8 s = bytes := by
  rw [ofUtf8?, String.fromUTF8?] at h
  split at h
  case isTrue =>
    obtain rfl := Option.some.inj h
    rfl
  case isFalse => cases h

theorem utf8_injective {a b : String} (h : utf8 a = utf8 b) : a = b := by
  have h' := ofUtf8?_utf8 a
  rw [h, ofUtf8?_utf8] at h'
  exact (Option.some.inj h').symm

/-- Texts are encoded character by character. -/
theorem utf8_append (a b : String) : utf8 (a ++ b) = utf8 a ++ utf8 b := by
  simp [utf8]

/-! ## The order of encodings -/

theorem precedes_total (a b : String) : (precedes a b || precedes b a) = true := by
  simpa [precedes] using List.le_total (utf8 a) (utf8 b)

theorem precedes_trans {a b c : String} (hab : precedes a b = true) (hbc : precedes b c = true) :
    precedes a c = true := by
  simp only [precedes, decide_eq_true_eq] at *
  exact List.le_trans hab hbc

/-- Texts that do not come after each other are equal. -/
theorem precedes_antisymm {a b : String} (hab : precedes a b = true) (hba : precedes b a = true) :
    a = b := by
  simp only [precedes, decide_eq_true_eq] at *
  exact utf8_injective (List.le_antisymm hab hba)

end StateHolders.Text
