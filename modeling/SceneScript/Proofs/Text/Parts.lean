import SceneScript.Proofs.Text.Numbering
import SceneScript.Script.Statement

set_option autoImplicit false
set_option relaxedAutoImplicit false

/-!
# Parts that are cut from a text

What is known of a word, of the part before a mark, of a bracketed segment and of a trimmed text
whatever they were cut from: which characters they cannot hold, and which cannot end them. Main
statement: `firstSegment?_spec`, the converse of `firstSegment?_text`.
-/

namespace SceneScript.Text

/-! Words -/

theorem mem_of_mem_words {w cs : List Char} (hw : w ∈ words cs) {c : Char} (hc : c ∈ w) :
    c ∈ cs ∧ isBlank c = false := by
  obtain ⟨hpiece, -⟩ := List.mem_filter.mp hw
  obtain ⟨i, hi⟩ := List.mem_iff_getElem?.mp hpiece
  obtain ⟨above, below, hcs, -, -, hsolid, -⟩ := exists_of_getElem?_splitWhere hi
  refine ⟨?_, hsolid c hc⟩
  rw [hcs]
  exact List.mem_append_right above (List.mem_append_left below hc)

/-- The characters of a word are not blank, also where there is no word. -/
theorem mem_of_mem_word {n : Nat} {cs : List Char} {c : Char} (hc : c ∈ word n cs) :
    c ∈ cs ∧ isBlank c = false := by
  rw [word, List.getD_eq_getElem?_getD] at hc
  rcases hword : (words cs)[n]? with _ | w
  · simp [hword] at hc
  · rw [hword, Option.getD_some] at hc
    exact mem_of_mem_words (List.mem_of_getElem? hword) hc

/-! Marks -/

theorem mem_of_mem_before {mark c : Char} {cs : List Char} (hc : c ∈ before mark cs) :
    c ∈ cs ∧ c ≠ mark := by
  have hne := List.mem_takeWhile_imp hc
  exact ⟨(List.takeWhile_sublist _).subset hc, by simpa using hne⟩

/-- A text with a mark in it is put together from what stands on both sides of the first one. -/
theorem eq_of_after?_eq_some {mark : Char} {cs rest : List Char} (h : after? mark cs = some rest) :
    cs = before mark cs ++ mark :: rest := by
  rw [after?] at h
  split at h
  · cases h
  · rename_i c tail hdrop
    cases h
    have hmark : (c != mark) = false := by
      have hhead := List.head?_dropWhile_not (fun d => d != mark) cs
      rwa [hdrop] at hhead
    obtain rfl : c = mark := by simpa using hmark
    calc
      cs = cs.takeWhile (fun d => d != c) ++ cs.dropWhile (fun d => d != c) :=
        List.takeWhile_append_dropWhile.symm
      _ = before c cs ++ c :: rest := by rw [hdrop, before]

/-! Segments -/

/-- The first segment of a text is one of its segments, and no bracket that could start or end an
earlier one stands in it. -/
theorem firstSegment?_spec {cs : List Char} {s : Segment} (h : firstSegment? cs = some s) :
    cs = s.text ∧ '<' ∉ s.left ∧ '>' ∉ s.inner := by
  rw [firstSegment?] at h
  split at h
  · cases h
  · rename_i opened hopened
    split at h
    · cases h
    · rename_i right hright
      cases h
      refine ⟨?_, ?_, ?_⟩
      · rw [Segment.text, ← eq_of_after?_eq_some hright, ← eq_of_after?_eq_some hopened]
      · intro hmem
        exact (mem_of_mem_before hmem).2 rfl
      · intro hmem
        exact (mem_of_mem_before hmem).2 rfl

/-! Ends -/

theorem dropEndWhile_dropEndWhile (p : Char -> Bool) (cs : List Char) :
    dropEndWhile p (dropEndWhile p cs) = dropEndWhile p cs :=
  List.rdropWhile_idempotent p cs

theorem mem_of_mem_dropEndWhile {p : Char -> Bool} {cs : List Char} {c : Char}
    (hc : c ∈ dropEndWhile p cs) : c ∈ cs :=
  (List.rdropWhile_prefix p cs).subset hc

/-- What is left when an end is dropped does not end in a character of that end. -/
theorem getLast?_dropEndWhile {p : Char -> Bool} {cs : List Char} {c : Char}
    (hc : (dropEndWhile p cs).getLast? = some c) : p c = false := by
  rw [dropEndWhile_eq_rdropWhile] at hc
  have hne : cs.rdropWhile p ≠ [] := List.ne_nil_of_mem (List.mem_of_getLast? hc)
  have hnot := List.rdropWhile_last_not p cs hne
  rwa [(List.getLast_eq_iff_getLast?_eq_some hne).mpr hc, Bool.not_eq_true] at hnot

theorem trim_trim (cs : List Char) : trim (trim cs) = trim cs := by
  induction cs with
  | nil => rfl
  | cons c cs ih =>
    by_cases hc : isBlank c = true
    · rw [trim_cons_blank hc, ih]
    · rw [Bool.not_eq_true] at hc
      rw [trim_cons_solid hc, trim_cons_solid hc, dropEndWhile_dropEndWhile]

end SceneScript.Text

namespace SceneScript

variable {cs : List Char}

theorem mem_of_mem_splitParameter {c : Char} (hc : c ∈ (splitParameter cs).1) : c ∈ cs := by
  rw [splitParameter] at hc
  split at hc
  · exact hc
  · rename_i s hsegment
    obtain ⟨htext, -, -⟩ := Text.firstSegment?_spec hsegment
    rw [htext, Text.Segment.text]
    rcases List.mem_append.mp hc with hleft | hright
    · exact List.mem_append_left _ hleft
    · simp [hright]

/-- A parameter is a piece of the text that is not empty and in which no bracket closes. -/
theorem parameter_spec {parameter : List Char} (h : (splitParameter cs).2 = some parameter) :
    parameter ≠ [] ∧ ∀ c ∈ parameter, c ∈ cs ∧ c ≠ '>' := by
  rw [splitParameter] at h
  split at h
  · cases h
  · rename_i s hsegment
    obtain ⟨htext, -, hinner⟩ := Text.firstSegment?_spec hsegment
    split at h
    · cases h
    · rename_i hne
      cases h
      refine ⟨by simpa using hne, ?_⟩
      intro c hc
      refine ⟨?_, fun hclose => hinner (hclose ▸ hc)⟩
      rw [htext, Text.Segment.text]
      simp [hc]

theorem nonEmpty?_eq_some {s : String} (h : nonEmpty? cs = some s) : s.toList = cs := by
  rw [nonEmpty?] at h
  split at h
  · cases h
  · rw [← Option.some.inj h, String.toList_ofList]

end SceneScript
