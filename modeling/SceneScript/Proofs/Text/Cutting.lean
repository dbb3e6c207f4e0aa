import Mathlib.Data.List.DropRight
import SceneScript.Text.Line

set_option autoImplicit false
set_option relaxedAutoImplicit false

/-!
# Cuts, segments and words of composed texts

How a text is cut that is put together from parts: the part before a mark, the first bracketed
segment, the words and the trimmed text are those parts that the text was made of.
-/

namespace SceneScript.Text

/-! Marks -/

theorem before_of_not_mem {mark : Char} {cs : List Char} (h : mark ∉ cs) :
    before mark cs = cs := by
  rw [before, List.takeWhile_eq_self_iff]
  intro c hc
  simpa using fun e : c = mark => h (e ▸ hc)

theorem before_append {mark : Char} {cs : List Char} (h : mark ∉ cs) (rest : List Char) :
    before mark (cs ++ mark :: rest) = cs := by
  have hcs := before_of_not_mem h
  rw [before, List.takeWhile_eq_self_iff] at hcs
  rw [before, List.takeWhile_append_of_pos hcs]
  simp

theorem after?_of_not_mem {mark : Char} {cs : List Char} (h : mark ∉ cs) :
    after? mark cs = none := by
  have hcs : cs.dropWhile (fun c => c != mark) = [] := by
    rw [List.dropWhile_eq_nil_iff]
    intro c hc
    simpa using fun e : c = mark => h (e ▸ hc)
  rw [after?, hcs]

theorem after?_append {mark : Char} {cs : List Char} (h : mark ∉ cs) (rest : List Char) :
    after? mark (cs ++ mark :: rest) = some rest := by
  have hcs := before_of_not_mem h
  rw [before, List.takeWhile_eq_self_iff] at hcs
  rw [after?, List.dropWhile_append_of_pos hcs]
  simp

/-! Segments -/

theorem firstSegment?_of_not_mem {cs : List Char} (h : '<' ∉ cs) : firstSegment? cs = none := by
  rw [firstSegment?, after?_of_not_mem h]

/-- A segment is found in the text that it makes, if no bracket stands where it would come
before. -/
theorem firstSegment?_text {s : Segment} (hleft : '<' ∉ s.left) (hinner : '>' ∉ s.inner) :
    firstSegment? s.text = some s := by
  simp only [firstSegment?, Segment.text, after?_append hleft, after?_append hinner,
    before_append hleft, before_append hinner]

/-! Ends -/

theorem dropEndWhile_eq_rdropWhile (p : Char -> Bool) (cs : List Char) :
    dropEndWhile p cs = cs.rdropWhile p := rfl

/-- An end is dropped from the second part alone if the first one ends in a character that
stays. -/
theorem dropEndWhile_append {p : Char -> Bool} (cs : List Char) {c : Char} (hc : p c = false)
    (rest : List Char) :
    dropEndWhile p (cs ++ c :: rest) = cs ++ c :: dropEndWhile p rest := by
  rw [dropEndWhile, dropEndWhile, List.reverse_append, List.reverse_cons, List.append_assoc,
    List.dropWhile_append]
  split
  · rename_i hrest
    rw [List.isEmpty_iff] at hrest
    simp [hrest, hc]
  · simp

/-- A character stays if one below it does. -/
theorem dropEndWhile_cons_of_ne_nil {p : Char -> Bool} {cs : List Char}
    (h : dropEndWhile p cs ≠ []) (c : Char) :
    dropEndWhile p (c :: cs) = c :: dropEndWhile p cs := by
  have hrest : (cs.reverse.dropWhile p).isEmpty = false := by
    simpa [dropEndWhile] using h
  rw [dropEndWhile, dropEndWhile, List.reverse_cons, List.dropWhile_append, hrest]
  simp

/-- What follows is dropped with the end if all of it can be. -/
theorem dropEndWhile_append_of_dropped {p : Char -> Bool} (cs : List Char) {rest : List Char}
    (h : ∀ c ∈ rest, p c = true) : dropEndWhile p (cs ++ rest) = dropEndWhile p cs := by
  rw [dropEndWhile, dropEndWhile, List.reverse_append, List.dropWhile_append_of_pos]
  intro c hc
  exact h c (List.mem_reverse.mp hc)

/-- No end is dropped from characters that stay. -/
theorem dropEndWhile_append_of_forall {p : Char -> Bool} {cs : List Char}
    (h : ∀ c ∈ cs, p c = false) (rest : List Char) :
    dropEndWhile p (cs ++ rest) = cs ++ dropEndWhile p rest := by
  induction cs with
  | nil => rfl
  | cons c cs ih =>
    have hc : p c = false := h c List.mem_cons_self
    have hcs := ih (fun d hd => h d (List.mem_cons_of_mem c hd))
    have hcons := dropEndWhile_append [] hc (cs ++ rest)
    rwa [hcs] at hcons

theorem trim_cons_blank {c : Char} (hc : isBlank c = true) (cs : List Char) :
    trim (c :: cs) = trim cs := by
  rw [trim, List.dropWhile_cons_of_pos hc, trim]

theorem trim_cons_solid {c : Char} (hc : isBlank c = false) (cs : List Char) :
    trim (c :: cs) = c :: dropEndWhile isBlank cs := by
  rw [trim, List.dropWhile_cons_of_neg (by simp [hc])]
  exact dropEndWhile_append [] hc cs

theorem trim_replicate_space (n : Nat) (cs : List Char) :
    trim (List.replicate n ' ' ++ cs) = trim cs := by
  induction n with
  | zero => rfl
  | succ n ih => rw [List.replicate_succ, List.cons_append, trim_cons_blank rfl, ih]

/-- A word at the front of a text is not trimmed. -/
theorem trim_solid_append {w : List Char} (hne : w ≠ []) (h : ∀ c ∈ w, isBlank c = false)
    (rest : List Char) : trim (w ++ rest) = w ++ dropEndWhile isBlank rest := by
  obtain ⟨c, cs, rfl⟩ := List.exists_cons_of_ne_nil hne
  have hc : isBlank c = false := h c List.mem_cons_self
  have hcs : ∀ d ∈ cs, isBlank d = false := fun d hd => h d (List.mem_cons_of_mem c hd)
  rw [List.cons_append, trim_cons_solid hc, dropEndWhile_append_of_forall hcs, List.cons_append]

theorem trim_eq_nil_iff {cs : List Char} : trim cs = [] ↔ isBlankText cs = true := by
  induction cs with
  | nil => simp [trim, dropEndWhile, isBlankText]
  | cons c cs ih =>
    by_cases hc : isBlank c = true
    · rw [trim_cons_blank hc, ih, isBlankText, isBlankText, List.all_cons, hc, Bool.true_and]
    · rw [Bool.not_eq_true] at hc
      simp [trim_cons_solid hc, isBlankText, hc]

/-! Pieces -/

section Pieces

variable {p : Char -> Bool} {cs : List Char}

theorem splitWhere_eq_splitOnP (p : Char -> Bool) (cs : List Char) :
    splitWhere p cs = cs.splitOnP p := by
  induction cs with
  | nil => simp [splitWhere]
  | cons c cs ih =>
    obtain ⟨w, ws, hcut⟩ := List.exists_cons_of_ne_nil (List.splitOnP_ne_nil p cs)
    rw [splitWhere, List.splitOnP_cons_eq_if_modifyHead, ih, hcut]
    rfl

/-- A text has a first piece. -/
theorem exists_splitWhere_eq_cons (p : Char -> Bool) (cs : List Char) :
    ∃ w ws, splitWhere p cs = w :: ws := by
  rw [splitWhere_eq_splitOnP]
  exact List.exists_cons_of_ne_nil (List.splitOnP_ne_nil p cs)

/-- No piece crosses a mark. -/
theorem splitWhere_append_mark (left : List Char) {mark : Char} (hmark : p mark = true)
    (right : List Char) :
    splitWhere p (left ++ mark :: right) = splitWhere p left ++ splitWhere p right := by
  simp only [splitWhere_eq_splitOnP]
  exact List.splitOnP_append_cons left right hmark

/-- A text without marks is one piece. -/
theorem splitWhere_of_forall (h : ∀ c ∈ cs, p c = false) : splitWhere p cs = [cs] := by
  rw [splitWhere_eq_splitOnP, List.splitOnP_eq_singleton h]

/-- A text has no mark, or its first piece ends at the first one. -/
theorem no_mark_or_first_mark (p : Char -> Bool) (cs : List Char) :
    (∀ c ∈ cs, p c = false) ∨
      ∃ w mark rest, cs = w ++ mark :: rest ∧ (∀ c ∈ w, p c = false) ∧ p mark = true := by
  induction cs with
  | nil => exact .inl (by simp)
  | cons c cs ih =>
    by_cases hc : p c = true
    · exact .inr ⟨[], c, cs, rfl, by simp, hc⟩
    · rw [Bool.not_eq_true] at hc
      rcases ih with hnone | ⟨w, mark, rest, rfl, hw, hmark⟩
      · exact .inl (List.forall_mem_cons.mpr ⟨hc, hnone⟩)
      · exact .inr ⟨c :: w, mark, rest, rfl, List.forall_mem_cons.mpr ⟨hc, hw⟩, hmark⟩

end Pieces

/-! Words -/

theorem words_nil : words [] = [] := by simp [words, splitWhere]

/-- No word crosses a blank. -/
theorem words_append_blank (left : List Char) {c : Char} (hc : isBlank c = true)
    (right : List Char) : words (left ++ c :: right) = words left ++ words right := by
  rw [words, splitWhere_append_mark left hc, List.filter_append, words, words]

/-- A text without blanks is one word. -/
theorem words_of_solid {w : List Char} (hne : w ≠ []) (h : ∀ c ∈ w, isBlank c = false) :
    words w = [w] := by
  rw [words, splitWhere_of_forall h]
  simp [hne]

theorem words_cons_blank {c : Char} (hc : isBlank c = true) (cs : List Char) :
    words (c :: cs) = words cs := by
  have h := words_append_blank [] hc cs
  rwa [words_nil, List.nil_append, List.nil_append] at h

theorem words_append_of_blanks {gap : List Char} (hgap : ∀ c ∈ gap, isBlank c = true)
    (cs : List Char) : words (gap ++ cs) = words cs := by
  induction gap with
  | nil => rfl
  | cons c gap ih =>
    rw [List.cons_append, words_cons_blank (hgap c List.mem_cons_self),
      ih (fun d hd => hgap d (List.mem_cons_of_mem c hd))]

theorem words_replicate_space (n : Nat) (cs : List Char) :
    words (List.replicate n ' ' ++ cs) = words cs := by
  apply words_append_of_blanks
  intro c hc
  rw [List.eq_of_mem_replicate hc]
  rfl

/-- A word and a blank at the front of a text are its first word. -/
theorem words_solid_append {w : List Char} (hne : w ≠ []) (h : ∀ c ∈ w, isBlank c = false)
    {c : Char} (hc : isBlank c = true) (rest : List Char) :
    words (w ++ c :: rest) = w :: words rest := by
  rw [words_append_blank w hc, words_of_solid hne h, List.singleton_append]

end SceneScript.Text
