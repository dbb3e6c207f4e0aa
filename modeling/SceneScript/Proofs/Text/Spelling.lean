import Mathlib.Data.List.Forall2
import SceneScript.Text.LowerCase

set_option autoImplicit false
set_option relaxedAutoImplicit false

/-!
# Words in any case

A text starts with a word, small letters or not, exactly if the text in small letters starts with
the word, although a text may become longer in small letters: two characters beyond ASCII, the
dotted capital I and the Kelvin sign, become small letters of ASCII, and neither can stand in a word
that has no `k` and does not end in `i`. Main statement: `isPrefixOf_lower_iff`.
-/

namespace SceneScript.Text

/-- A text is a word in which each letter may be capital. All other characters stand for
themselves. -/
def Spells (word spelling : List Char) : Prop :=
  List.Forall₂ (fun w c => c = w ∨ c = w.toUpper) word spelling

/-- A word of ASCII characters, none of them a capital, for which no character beyond ASCII can
stand in a text. -/
def IsKeyText (word : List Char) : Prop :=
  (∀ w ∈ word, w.toNat < 0x80 ∧ w.toLower = w ∧ w ≠ 'k') ∧ word.getLast? ≠ some 'i'

instance (word : List Char) : Decidable (IsKeyText word) :=
  @instDecidableAnd _ _ (List.decidableBAll _ word) inferInstance

/-! Letters of ASCII -/

section Ascii

variable {c w : Char}

theorem toNat_toLower (c : Char) :
    c.toLower.toNat = if 65 ≤ c.toNat ∧ c.toNat ≤ 90 then c.toNat + 32 else c.toNat := by
  have hval : c.val.toNat = c.toNat := rfl
  unfold Char.toLower
  split
  · rename_i h
    have hfirst : 65 ≤ c.toNat := UInt32.le_iff_toNat_le.mp h.1
    have hlast : c.toNat ≤ 90 := UInt32.le_iff_toNat_le.mp h.2
    rw [if_pos ⟨hfirst, hlast⟩]
    show (c.val + _).toNat = _
    rw [UInt32.toNat_add, hval]
    simp
    omega
  · rename_i h
    rw [if_neg]
    rintro ⟨hfirst, hlast⟩
    exact h ⟨UInt32.le_iff_toNat_le.mpr hfirst, UInt32.le_iff_toNat_le.mpr hlast⟩

theorem toNat_toUpper (c : Char) :
    c.toUpper.toNat = if 97 ≤ c.toNat ∧ c.toNat ≤ 122 then c.toNat - 32 else c.toNat := by
  have hval : c.val.toNat = c.toNat := rfl
  unfold Char.toUpper
  split
  · rename_i h
    have hfirst : 97 ≤ c.toNat := UInt32.le_iff_toNat_le.mp h.1
    have hlast : c.toNat ≤ 122 := UInt32.le_iff_toNat_le.mp h.2
    rw [if_pos ⟨hfirst, hlast⟩]
    show (c.val + _).toNat = _
    rw [UInt32.toNat_add, hval]
    simp
    omega
  · rename_i h
    rw [if_neg]
    rintro ⟨hfirst, hlast⟩
    exact h ⟨UInt32.le_iff_toNat_le.mpr hfirst, UInt32.le_iff_toNat_le.mpr hlast⟩

/-- The characters whose small form is a given one are that one and its capital. -/
theorem toLower_eq_iff (hw : w.toLower = w) : c.toLower = w ↔ c = w ∨ c = w.toUpper := by
  have hsmall := toNat_toLower w
  rw [hw] at hsmall
  rw [← Char.toNat_inj, ← Char.toNat_inj, ← Char.toNat_inj, toNat_toLower, toNat_toUpper]
  split_ifs at hsmall ⊢ <;> omega

theorem lt_of_toUpper (hw : w.toNat < 0x80) (h : c = w ∨ c = w.toUpper) : c.toNat < 0x80 := by
  have hupper := toNat_toUpper w
  rcases h with rfl | rfl
  · exact hw
  · split_ifs at hupper <;> omega

end Ascii

/-! Letters beyond ASCII -/

section Beyond

variable {c : Char}

/-- The shift of the Kelvin sign, which alone moves a character into ASCII. -/
def kelvinShift : Shift := ⟨0x212a, 0x212a, 1, -8383⟩

/-- A shift moves characters to characters beyond ASCII. -/
def Shift.StaysBeyondAscii (s : Shift) : Prop :=
  0x80 ≤ (s.first : Int) + s.offset ∧
    ((s.last : Int) + s.offset < 0xd800 ∨
      0xe000 ≤ (s.first : Int) + s.offset ∧ (s.last : Int) + s.offset < 0x110000)

instance (s : Shift) : Decidable s.StaysBeyondAscii := inferInstanceAs (Decidable (_ ∧ (_ ∨ _ ∧ _)))

theorem smallShifts_stay_beyond : ∀ s ∈ smallShifts, s.StaysBeyondAscii ∨ s = kelvinShift := by
  decide +kernel

theorem Shift.image?_eq_some {s : Shift} {n m : Nat} (h : s.image? n = some m) :
    s.first ≤ n ∧ n ≤ s.last ∧ m = ((n : Int) + s.offset).toNat := by
  rw [Shift.image?] at h
  split at h
  · rename_i hn
    simp only [Bool.and_eq_true, decide_eq_true_eq] at hn
    exact ⟨hn.1.1, hn.1.2, (Option.some.inj h).symm⟩
  · cases h

theorem toNat_ofNat_of_isValidChar {n : Nat} (h : n.isValidChar) : (Char.ofNat n).toNat = n := by
  rw [Char.ofNat, dif_pos h]
  rfl

theorem moveBy_smallShifts (h : 0x80 ≤ c.toNat) :
    moveBy smallShifts c = 'k' ∨ 0x80 ≤ (moveBy smallShifts c).toNat := by
  rw [moveBy]
  split
  · rename_i n hn
    obtain ⟨s, hs, himage⟩ := List.exists_of_findSome?_eq_some hn
    obtain ⟨hfirst, hlast, rfl⟩ := Shift.image?_eq_some himage
    rcases smallShifts_stay_beyond s hs with ⟨hlow, hrange⟩ | rfl
    · right
      have hvalid : Nat.isValidChar ((c.toNat : Int) + s.offset).toNat := by
        simp only [Nat.isValidChar]
        omega
      rw [toNat_ofNat_of_isValidChar hvalid]
      omega
    · left
      have hc : c.toNat = 0x212a := by
        simp only [kelvinShift] at hfirst hlast
        omega
      rw [hc]
      rfl
  · exact .inr h

/-- What a character beyond ASCII may become in small letters. -/
theorem lowerChar_beyond (h : 0x80 ≤ c.toNat) :
    lowerChar c = ['i', Char.ofNat 0x307] ∨
      ∃ d, lowerChar c = [d] ∧ (d = 'k' ∨ 0x80 ≤ d.toNat) := by
  rw [lowerChar, if_neg (by omega)]
  split
  · exact .inl rfl
  · exact .inr ⟨_, rfl, moveBy_smallShifts h⟩

end Beyond

/-! Words -/

theorem Spells.lt {word spelling : List Char} (h : Spells word spelling)
    (hword : ∀ w ∈ word, w.toNat < 0x80) : ∀ c ∈ spelling, c.toNat < 0x80 := by
  induction h with
  | nil => simp
  | @cons w c word spelling hc _ ih =>
    intro d hd
    rcases List.mem_cons.mp hd with rfl | hd
    · exact lt_of_toUpper (hword w List.mem_cons_self) hc
    · exact ih (fun v hv => hword v (List.mem_cons_of_mem w hv)) d hd

/-- A spelling ends in the last letter of its word. -/
theorem Spells.exists_last {front spelling : List Char} {last : Char}
    (h : Spells (front ++ [last]) spelling) :
    ∃ above c, spelling = above ++ [c] ∧ (c = last ∨ c = last.toUpper) := by
  rw [Spells, ← List.forall₂_reverse_iff, List.reverse_append] at h
  obtain ⟨c, above, hc, -, hreverse⟩ := List.forall₂_cons_left_iff.mp h
  refine ⟨above.reverse, c, ?_, hc⟩
  rw [← List.reverse_cons, ← hreverse, List.reverse_reverse]

theorem IsKeyText.tail {w : Char} {word : List Char} (h : IsKeyText (w :: word)) :
    IsKeyText word := by
  refine ⟨fun v hv => h.1 v (List.mem_cons_of_mem w hv), fun hlast => h.2 ?_⟩
  have hne : word ≠ [] := List.ne_nil_of_mem (List.mem_of_getLast? hlast)
  rw [List.getLast?_cons_of_ne_nil hne, hlast]

/-- A character beyond ASCII starts nothing that starts like a word. -/
theorem not_isPrefixOf_beyond {w c : Char} {word rest : List Char} (hword : IsKeyText (w :: word))
    (hc : 0x80 ≤ c.toNat) : (w :: word).isPrefixOf (lowerChar c ++ rest) = false := by
  obtain ⟨hw, -, hk⟩ := hword.1 w List.mem_cons_self
  rcases lowerChar_beyond hc with hlower | ⟨d, hlower, hd⟩
  · -- the dot above would have to go on the word, or the word would end in `i`
    rw [hlower]
    cases word with
    | nil =>
      have hwi : w ≠ 'i' := fun h => hword.2 (by rw [h]; rfl)
      simp [List.isPrefixOf, hwi]
    | cons v word =>
      have hv := (hword.1 v (by simp)).1
      have hdot : v ≠ Char.ofNat 0x307 := by
        rintro rfl
        exact absurd hv (by decide)
      simp [List.isPrefixOf, hdot]
  · have hwd : w ≠ d := by
      rintro rfl
      rcases hd with rfl | hd
      · exact hk rfl
      · omega
    simp [hlower, List.isPrefixOf, hwd]

/-- A text in small letters starts with a word exactly if the text starts with the word in small or
capital letters. -/
theorem isPrefixOf_lower_iff {word : List Char} (hword : IsKeyText word) (cs : List Char) :
    word.isPrefixOf (lower cs) = true ↔
      ∃ spelling rest, cs = spelling ++ rest ∧ Spells word spelling := by
  induction word generalizing cs with
  | nil => exact iff_of_true rfl ⟨[], cs, rfl, .nil⟩
  | cons w word ih =>
    cases cs with
    | nil =>
      refine iff_of_false (by simp [lower]) ?_
      rintro ⟨spelling, rest, hnil, hspells⟩
      obtain ⟨rfl, -⟩ := List.append_eq_nil_iff.mp hnil.symm
      cases hspells
    | cons c cs =>
      have hlower : lower (c :: cs) = lowerChar c ++ lower cs := by
        rw [lower, List.flatMap_cons, ← lower]
      obtain ⟨hw, hsmall, -⟩ := hword.1 w List.mem_cons_self
      rw [hlower]
      by_cases hc : c.toNat < 0x80
      · rw [lowerChar, if_pos hc, List.singleton_append, List.isPrefixOf, Bool.and_eq_true,
          beq_iff_eq, ih hword.tail]
        constructor
        · rintro ⟨hfirst, spelling, rest, rfl, hspells⟩
          exact ⟨c :: spelling, rest, rfl,
            .cons ((toLower_eq_iff hsmall).mp hfirst.symm) hspells⟩
        · rintro ⟨spelling, rest, hcs, hspells⟩
          cases hspells with
          | @cons _ d _ spelling hd hspells =>
            obtain ⟨rfl, rfl⟩ := List.cons.inj hcs
            exact ⟨((toLower_eq_iff hsmall).mpr hd).symm, spelling, rest, rfl, hspells⟩
      · refine iff_of_false ?_ ?_
        · rw [not_isPrefixOf_beyond hword (by omega)]
          exact Bool.false_ne_true
        · rintro ⟨spelling, rest, hcs, hspells⟩
          cases hspells with
          | @cons _ d _ spelling hd hspells =>
            obtain ⟨rfl, rfl⟩ := List.cons.inj hcs
            exact hc (lt_of_toUpper hw hd)

/-! The final sigma -/

/-- Two texts are the same, except that where the first has a small sigma the second may have the
final form of the letter, as small letters do at the end of a word. -/
def SameButFinalSigma (cs ds : List Char) : Prop :=
  List.Forall₂ (fun c d => d = c ∨ c = 'σ' ∧ d = 'ς') cs ds

/-- A text starts with a word or not, whichever form of the sigma it has. -/
theorem SameButFinalSigma.isPrefixOf {cs ds : List Char} (h : SameButFinalSigma cs ds)
    {word : List Char} (hword : ∀ w ∈ word, w.toNat < 0x80) :
    word.isPrefixOf ds = word.isPrefixOf cs := by
  induction h generalizing word with
  | nil => rfl
  | @cons c d cs ds hcd _ ih =>
    cases word with
    | nil => rfl
    | cons w word =>
      have hw := hword w List.mem_cons_self
      have hrest := ih (fun v hv => hword v (List.mem_cons_of_mem w hv))
      rw [List.isPrefixOf, List.isPrefixOf, hrest]
      rcases hcd with rfl | ⟨rfl, rfl⟩
      · rfl
      · have hsmall : w ≠ 'σ' := by
          rintro rfl
          exact absurd hw (by decide)
        have hfinal : w ≠ 'ς' := by
          rintro rfl
          exact absurd hw (by decide)
        rw [beq_false_of_ne hsmall, beq_false_of_ne hfinal]

end SceneScript.Text
