import Mathlib
import StateHolders.Text.Lowercase

/-!
# Lower case and ASCII

The lower case of a character beyond ASCII has a character beyond ASCII in it. The Kelvin sign is
the one exception: its lower case is the letter `k`. So whether a text becomes a given ASCII word
without that letter can be said without the tables: it is that word, but for the case of ASCII
letters.
-/

namespace StateHolders.Text

/-- A character that is in the lower case of no character beyond ASCII alone. -/
def IsSettled (c : Char) : Prop := c.toNat < 0x80 ∧ c ≠ 'k'

instance (c : Char) : Decidable (IsSettled c) := inferInstanceAs (Decidable (_ ∧ _))

/-! ## The table -/

/-- Whether every code point of a progression moves to a character beyond ASCII. -/
def Progression.staysBeyondAscii (p : Progression) : Bool :=
  0x80 ≤ p.first + p.shift &&
    (p.last + p.shift < 0xD800 || (0xDFFF < p.first + p.shift && p.last + p.shift < 0x110000))

/-- Only the Kelvin sign moves into ASCII. -/
theorem staysBeyondAscii_or_kelvin : ∀ p ∈ lowercaseProgressions,
    p.staysBeyondAscii = true ∨ p.first = 0x212A ∧ p.last = 0x212A ∧ p.shift = -8383 := by
  decide +kernel

/-- What a progression moves stays beyond ASCII, if the progression does. -/
theorem Progression.le_toNat_of_holds {p : Progression} (h : p.staysBeyondAscii = true) {n : Nat}
    (hn : p.holds n = true) : 0x80 ≤ (Char.ofNat ((n : Int) + p.shift).toNat).toNat := by
  simp only [Progression.holds, Bool.and_eq_true, decide_eq_true_eq] at hn
  simp only [Progression.staysBeyondAscii, Bool.and_eq_true, Bool.or_eq_true,
    decide_eq_true_eq] at h
  have hvalid : (((n : Int) + p.shift).toNat).isValidChar := by
    rw [Nat.isValidChar]
    omega
  rw [Char.toNat_ofNat, if_pos hvalid]
  omega

theorem lowercaseByTable_beyond_ascii {c : Char} (h : 0x80 ≤ c.toNat) :
    0x80 ≤ (lowercaseByTable c).toNat ∨ lowercaseByTable c = 'k' := by
  rw [lowercaseByTable]
  cases hfind : lowercaseProgressions.find? (·.holds c.toNat) with
  | none => exact Or.inl h
  | some p =>
    have hholds := List.find?_some hfind
    rcases staysBeyondAscii_or_kelvin p (List.mem_of_find?_eq_some hfind) with
      hstays | ⟨hfirst, hlast, hshift⟩
    · exact Or.inl (p.le_toNat_of_holds hstays hholds)
    · have hkelvin : c.toNat = 0x212A := by
        simp only [Progression.holds, Bool.and_eq_true, decide_eq_true_eq] at hholds
        omega
      right
      dsimp only
      rw [hkelvin, hshift]
      rfl

/-! ## Characters and texts -/

theorem ascii_of_lowercaseChar {c : Char} (h : ∀ d ∈ lowercaseChar c, IsSettled d) :
    c.toNat < 0x80 := by
  by_contra hc
  rw [lowercaseChar, if_neg hc] at h
  split at h
  · exact absurd (h '\u0307' (by simp)) (by decide)
  · obtain ⟨hascii, hk⟩ := h _ List.mem_cons_self
    rcases lowercaseByTable_beyond_ascii (Nat.le_of_not_lt hc) with hbeyond | hkelvin
    · omega
    · exact hk hkelvin

/-- No text with a character beyond ASCII becomes a text of settled characters. -/
theorem ascii_of_lowercaseAfter {before cs : List Char}
    (h : ∀ d ∈ lowercaseAfter before cs, IsSettled d) : ∀ c ∈ cs, c.toNat < 0x80 := by
  induction cs generalizing before with
  | nil => exact List.forall_mem_nil _
  | cons c rest ih =>
    rw [lowercaseAfter] at h
    refine List.forall_mem_cons.mpr ⟨?_, ih fun d hd => h d (List.mem_append_right _ hd)⟩
    have hhere := fun d hd => h d (List.mem_append_left _ hd)
    split at hhere
    · -- Neither form of the small sigma is in ASCII.
      have hsigma := hhere _ List.mem_cons_self
      split at hsigma
      · exact absurd hsigma (by decide)
      · exact absurd hsigma (by decide)
    · exact ascii_of_lowercaseChar hhere

/-- In ASCII each letter has its lower case on its own. -/
theorem lowercaseAfter_of_ascii {before cs : List Char} (h : ∀ c ∈ cs, c.toNat < 0x80) :
    lowercaseAfter before cs = cs.map Char.toLower := by
  induction cs generalizing before with
  | nil => rfl
  | cons c rest ih =>
    obtain ⟨hc, hrest⟩ := List.forall_mem_cons.mp h
    have hsigma : c ≠ 'Σ' := by
      rintro rfl
      exact absurd hc (by decide)
    rw [lowercaseAfter, ih hrest, if_neg hsigma, lowercaseChar, if_pos hc]
    rfl

/-- Core lower-cases a text letter by letter, and ASCII letters only. -/
theorem toList_toLower (s : String) : s.toLower.toList = s.toList.map Char.toLower :=
  String.toList_map

theorem ascii_of_toLower {c : Char} (h : c.toLower.toNat < 0x80) : c.toNat < 0x80 := by
  by_cases hupper : c.isUpper = true
  · simp only [Char.isUpper, decide_eq_true_eq, ge_iff_le, UInt32.le_iff_toNat_le] at hupper
    have : 'Z'.val.toNat = 90 := rfl
    have : c.toNat = c.val.toNat := rfl
    omega
  · rwa [Char.toLower_eq_of_not_isUpper hupper] at h

/-- A text becomes an ASCII word without the letter `k` exactly if it is that word, but for the
case of ASCII letters. -/
theorem lowercase_eq_iff {s w : String} (hw : ∀ d ∈ w.toList, IsSettled d) :
    lowercase s = w ↔ s.toLower = w := by
  rw [← String.toList_inj, lowercase, String.toList_ofList, ← String.toList_inj, toList_toLower]
  constructor
  · intro h
    rw [← lowercaseAfter_of_ascii (ascii_of_lowercaseAfter (h ▸ hw)), h]
  · intro h
    rw [lowercaseAfter_of_ascii, h]
    intro c hc
    have hmem : c.toLower ∈ w.toList := h ▸ List.mem_map_of_mem hc
    exact ascii_of_toLower (hw _ hmem).1

end StateHolders.Text
