import SceneScript.Proofs.Text.Search
import SceneScript.Proofs.Text.Words

set_option autoImplicit false
set_option relaxedAutoImplicit false

/-!
# Texts apart from their blanks

What is left of a text when its blanks change: its words, which `words_squeeze` finds again when
each run of blanks is written as one space, and its other characters, which the words are made of.
These stand in the same order, so a text without its blanks is cut at the same marks and has the
same first segment: `firstSegment?_filter`.
-/

namespace SceneScript.Text

/-! Words and the characters in them -/

theorem flatten_splitWhere (p : Char -> Bool) (cs : List Char) :
    (splitWhere p cs).flatten = cs.filter (fun c => !p c) := by
  induction cs with
  | nil => rfl
  | cons c cs ih =>
    rw [splitWhere]
    by_cases hc : p c = true
    · rw [if_pos hc, List.flatten_cons, ih]
      simp [hc]
    · rw [if_neg hc, List.filter_cons_of_pos (by simpa using hc), ← ih]
      rcases splitWhere p cs with _ | ⟨w, ws⟩ <;> rfl

/-- The words of a text hold all its characters that are not blank, in order. -/
theorem flatten_words (cs : List Char) :
    (words cs).flatten = cs.filter (fun c => !isBlank c) := by
  rw [words, List.flatten_filter_not_isEmpty, flatten_splitWhere]

theorem isBlankText_filter (cs : List Char) :
    isBlankText (cs.filter (fun c => !isBlank c)) = isBlankText cs := by
  rw [isBlankText, isBlankText, List.all_filter]
  simp

/-! Words of a text that is squeezed -/

/-- Whether a text starts with a character that is not blank. -/
def startsSolid (cs : List Char) : Bool :=
  cs.head?.any (fun c => !isBlank c)

/-- A character goes into the first word if this starts the text, and else is a word. -/
theorem words_cons_solid {c : Char} (hc : isBlank c = false) (cs : List Char) :
    words (c :: cs) =
      if startsSolid cs then (words cs).modifyHead (c :: ·) else [c] :: words cs := by
  cases cs with
  | nil =>
    simp [startsSolid, words, splitWhere, hc]
  | cons d cs =>
    by_cases hd : isBlank d = true
    · have hw : ∀ e ∈ [c], isBlank e = false := by simpa using hc
      have hstart : startsSolid (d :: cs) = false := by simp [startsSolid, hd]
      have hwords := words_solid_append (List.cons_ne_nil c []) hw hd cs
      rw [hstart, words_cons_blank hd]
      exact hwords
    · have hstart : startsSolid (d :: cs) = true := by simpa [startsSolid] using hd
      obtain ⟨w, ws, hws⟩ := exists_splitWhere_eq_cons isBlank cs
      simp [hstart, words, splitWhere, hc, hd, hws]

theorem startsSolid_collapse (cs : List Char) :
    startsSolid (collapse false cs) = startsSolid cs := by
  cases cs with
  | nil => rfl
  | cons c cs =>
    rw [collapse]
    by_cases hc : isBlank c = true
    · have hspace : isBlank ' ' = true := rfl
      simp [startsSolid, hc, hspace]
    · simp [startsSolid, hc]

theorem words_collapse (afterBlank : Bool) (cs : List Char) :
    words (collapse afterBlank cs) = words cs := by
  induction cs generalizing afterBlank with
  | nil => rfl
  | cons c cs ih =>
    rw [collapse]
    by_cases hc : isBlank c = true
    · rw [if_pos hc, words_cons_blank hc]
      cases afterBlank with
      | true => rw [if_pos rfl, ih]
      | false => rw [if_neg Bool.false_ne_true, words_cons_blank rfl, ih]
    · rw [if_neg hc]
      rw [Bool.not_eq_true] at hc
      rw [words_cons_solid hc, words_cons_solid hc, startsSolid_collapse, ih]

theorem words_dropEndWhile (cs : List Char) : words (dropEndWhile isBlank cs) = words cs := by
  induction cs using List.reverseRecOn with
  | nil => rfl
  | append_singleton cs c ih =>
    rw [dropEndWhile_eq_rdropWhile, List.rdropWhile_concat]
    split
    · rename_i hc
      rw [← dropEndWhile_eq_rdropWhile, ih, words_append_blank cs hc, words_nil, List.append_nil]
    · rfl

theorem words_trim (cs : List Char) : words (trim cs) = words cs := by
  induction cs with
  | nil => rfl
  | cons c cs ih =>
    by_cases hc : isBlank c = true
    · rw [trim_cons_blank hc, ih, words_cons_blank hc]
    · rw [Bool.not_eq_true] at hc
      rw [trim, List.dropWhile_cons_of_neg (by simp [hc]), words_dropEndWhile]

/-- A text keeps its words when each run of blanks is written as one space and those at the ends are
removed. -/
theorem words_squeeze (cs : List Char) : words (squeeze cs) = words cs := by
  rw [squeeze, words_trim, words_collapse]

/-! Cuts of a text that is filtered -/

section Filter

variable {p : Char -> Bool} {mark : Char}

theorem before_filter (h : p mark = true) (cs : List Char) :
    before mark (cs.filter p) = (before mark cs).filter p := by
  induction cs with
  | nil => rfl
  | cons c cs ih =>
    by_cases hc : c = mark
    · subst hc
      rw [List.filter_cons_of_pos h, before_cons_self, before_cons_self, List.filter_nil]
    · rw [before_cons_of_ne hc, List.filter_cons, List.filter_cons, ← ih]
      split
      · rw [before_cons_of_ne hc]
      · rfl

theorem after?_filter (h : p mark = true) (cs : List Char) :
    after? mark (cs.filter p) = (after? mark cs).map (List.filter p) := by
  induction cs with
  | nil => rfl
  | cons c cs ih =>
    by_cases hc : c = mark
    · subst hc
      rw [List.filter_cons_of_pos h, after?_cons_self, after?_cons_self, Option.map_some]
    · rw [after?_cons_of_ne hc, List.filter_cons, ← ih]
      split
      · rw [after?_cons_of_ne hc]
      · rfl

/-- A segment without some of the characters between and beside its brackets. -/
def Segment.filter (p : Char -> Bool) (s : Segment) : Segment :=
  ⟨s.left.filter p, s.inner.filter p, s.right.filter p⟩

/-- The first segment of a text that keeps its brackets keeps its place among them. -/
theorem firstSegment?_filter (hopen : p '<' = true) (hclose : p '>' = true) (cs : List Char) :
    firstSegment? (cs.filter p) = (firstSegment? cs).map (Segment.filter p) := by
  rw [firstSegment?, firstSegment?, after?_filter hopen, before_filter hopen]
  rcases after? '<' cs with _ | opened
  · rfl
  · simp only [Option.map_some, after?_filter hclose, before_filter hclose]
    rcases after? '>' opened with _ | right <;> rfl

end Filter

end SceneScript.Text
