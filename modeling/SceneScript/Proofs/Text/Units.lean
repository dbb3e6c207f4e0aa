import SceneScript.Text.Hex
import SceneScript.Text.Units

set_option autoImplicit false
set_option relaxedAutoImplicit false

/-!
# UTF-16 units read back

A text is read back from its units, each of which has four hexadecimal digits.
-/

namespace SceneScript.Text

/-! Units -/

/-- No character is a surrogate. -/
theorem toNat_bounds (c : Char) :
    c.toNat < 0xd800 ∨ (0xe000 ≤ c.toNat ∧ c.toNat < 0x110000) := by
  have hvalid := c.valid
  simp only [UInt32.isValidChar, Nat.isValidChar] at hvalid
  simp only [Char.toNat]
  omega

theorem lt_of_mem_unitsOfChar {c : Char} {n : Nat} (h : n ∈ unitsOfChar c) : n < 0x10000 := by
  have hc := toNat_bounds c
  rw [unitsOfChar] at h
  split at h
  · rename_i hsmall
    rwa [List.mem_singleton.mp h]
  · simp only [List.mem_cons, List.not_mem_nil, or_false] at h
    omega

theorem lt_of_mem_units {cs : List Char} {n : Nat} (h : n ∈ units cs) : n < 0x10000 := by
  obtain ⟨c, -, hn⟩ := List.mem_flatMap.mp h
  exact lt_of_mem_unitsOfChar hn

/-- The first character of a text is read from its one or two units. -/
theorem ofUnits?_unitsOfChar_append (c : Char) (us : List Nat) :
    ofUnits? (unitsOfChar c ++ us) = (ofUnits? us).map (c :: ·) := by
  have hc := toNat_bounds c
  rw [unitsOfChar]
  split
  · have hhigh : isHighSurrogate c.toNat = false := by
      simp only [isHighSurrogate, Bool.and_eq_false_iff, decide_eq_false_iff_not]
      omega
    have hlow : isLowSurrogate c.toNat = false := by
      simp only [isLowSurrogate, Bool.and_eq_false_iff, decide_eq_false_iff_not]
      omega
    cases us with
    | nil => simp [ofUnits?, hhigh, hlow]
    | cons m rest => simp [ofUnits?, hhigh, hlow]
  · rename_i hlarge
    have hhigh : isHighSurrogate (0xd800 + (c.toNat - 0x10000) / 0x400) = true := by
      simp only [isHighSurrogate, Bool.and_eq_true, decide_eq_true_eq]
      omega
    have hlow : isLowSurrogate (0xdc00 + (c.toNat - 0x10000) % 0x400) = true := by
      simp only [isLowSurrogate, Bool.and_eq_true, decide_eq_true_eq]
      omega
    have hnumber : 0x10000 + (0xd800 + (c.toNat - 0x10000) / 0x400 - 0xd800) * 0x400 +
        (0xdc00 + (c.toNat - 0x10000) % 0x400 - 0xdc00) = c.toNat := by
      omega
    simp only [List.cons_append, List.nil_append, ofUnits?, hhigh, hlow, if_true, hnumber,
      Char.ofNat_toNat]

theorem ofUnits?_units (cs : List Char) : ofUnits? (units cs) = some cs := by
  induction cs with
  | nil => rfl
  | cons c cs ih =>
    rw [units, List.flatMap_cons, ofUnits?_unitsOfChar_append, ← units, ih, Option.map_some]

/-! Digits -/

theorem mem_hexDigits {width n : Nat} {c : Char} (h : c ∈ hexDigits width n) :
    ∃ d < 16, c = hexDigit d := by
  induction width generalizing n with
  | zero => cases h
  | succ width ih =>
    rw [hexDigits, List.mem_append, List.mem_singleton] at h
    rcases h with hfront | hlast
    · exact ih hfront
    · exact ⟨n % 16, Nat.mod_lt n (by decide), hlast⟩

/-- A unit is the number that its digits make. -/
theorem hexDigits_four (n : Nat) :
    hexDigits 4 n =
      [hexDigit (n / 16 / 16 / 16 % 16), hexDigit (n / 16 / 16 % 16), hexDigit (n / 16 % 16),
        hexDigit (n % 16)] := by
  simp [hexDigits]

end SceneScript.Text
