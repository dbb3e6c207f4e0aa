import Mathlib.Data.List.TakeWhile
import SceneScript.Text.Raw

set_option autoImplicit false
set_option relaxedAutoImplicit false

/-!
# Raw text that can be written

A raw text can be written exactly if no half of a surrogate pair stands in it, and what is written
then is the text that it is. Main statements: `toText_eq_ok_iff` and `exists_toText_eq_error_iff`.
-/

namespace SceneScript.RawText

variable {t : RawText} {half : Fin 0x800}

/-! Halves -/

theorem lone_not_mem_ofString (half : Fin 0x800) (s : String) : .lone half ∉ ofString s := by
  simp [ofString]

theorem ofString_ofList (cs : List Char) : ofString (String.ofList cs) = cs.map .char := by
  rw [ofString, String.toList_ofList]

theorem lone_mem_rewrite_iff {f : Char -> List Char} : .lone half ∈ t.rewrite f ↔ .lone half ∈ t := by
  rw [rewrite, List.mem_flatMap]
  constructor
  · rintro ⟨c, hc, hhalf⟩
    cases c with
    | char c => simp at hhalf
    | lone other =>
      rw [List.mem_singleton.mp hhalf]
      exact hc
  · intro h
    exact ⟨.lone half, h, List.mem_singleton_self _⟩

theorem rewrite_ofString (f : Char -> List Char) (s : String) :
    (ofString s).rewrite f = (s.toList.flatMap f).map .char := by
  rw [rewrite, ofString, List.flatMap_map, List.map_flatMap]

/-! Writing -/

theorem unencodable?_eq_none_iff {writable : RawChar -> Bool} :
    t.unencodable? writable = none ↔ ∀ c ∈ t, writable c = true := by
  rw [← List.dropWhile_eq_nil_iff, unencodable?]
  split
  · rename_i h
    exact iff_of_true rfl h
  · rename_i h
    rw [h]
    exact iff_of_false nofun nofun

theorem unencodable?_isChar_eq_none_iff :
    t.unencodable? RawChar.isChar = none ↔ ∀ half, .lone half ∉ t := by
  rw [unencodable?_eq_none_iff]
  constructor
  · intro h half hmem
    exact Bool.false_ne_true (h _ hmem)
  · intro h c hc
    cases c with
    | char c => rfl
    | lone half => exact absurd hc (h half)

/-- A raw text without halves is made of its characters. -/
theorem map_filterMap_char? (h : ∀ half, .lone half ∉ t) :
    (t.filterMap RawChar.char?).map .char = t := by
  induction t with
  | nil => rfl
  | cons c t ih =>
    have ht : ∀ half, .lone half ∉ t := fun half hmem => h half (List.mem_cons_of_mem c hmem)
    cases c with
    | char c => exact congrArg (List.cons (.char c)) (ih ht)
    | lone half => exact absurd List.mem_cons_self (h half)

theorem exists_eq_ofString (h : ∀ half, .lone half ∉ t) : ∃ s : String, t = .ofString s := by
  refine ⟨String.ofList (t.filterMap RawChar.char?), ?_⟩
  rw [ofString_ofList, map_filterMap_char? h]

theorem toText_eq_ok_iff {s : String} : t.toText = .ok s ↔ t = .ofString s := by
  rw [toText]
  constructor
  · intro h
    split at h
    · cases h
    · rename_i hnone
      rw [← Except.ok.inj h, ofString_ofList,
        map_filterMap_char? (unencodable?_isChar_eq_none_iff.mp hnone)]
  · rintro rfl
    rw [unencodable?_isChar_eq_none_iff.mpr (fun half => lone_not_mem_ofString half s)]
    have hchars : (ofString s).filterMap RawChar.char? = s.toList := by
      rw [ofString, List.filterMap_map]
      exact List.filterMap_some
    rw [hchars, String.ofList_toList]

theorem toText_ofString (s : String) : (ofString s).toText = .ok s :=
  toText_eq_ok_iff.mpr rfl

theorem exists_toText_eq_error_iff : (∃ u, t.toText = .error u) ↔ ∃ half, .lone half ∈ t := by
  rw [toText]
  split
  · rename_i u h
    have hmem : ¬ ∀ half, .lone half ∉ t := by
      rw [← unencodable?_isChar_eq_none_iff, h]
      exact nofun
    exact iff_of_true ⟨u, rfl⟩ (by simpa using hmem)
  · rename_i h
    have hmem := unencodable?_isChar_eq_none_iff.mp h
    exact iff_of_false nofun (fun ⟨half, hhalf⟩ => hmem half hhalf)

end SceneScript.RawText
