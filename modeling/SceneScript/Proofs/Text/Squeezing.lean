import SceneScript.Proofs.Text.Spacing

set_option autoImplicit false
set_option relaxedAutoImplicit false

/-!
# Squeezed texts

A text falls into words and the blanks around them, and a squeezed text is its words with one space
between each two. Cut at its spaces it gives the words again, which is how the words of a line are
counted. Main statement: `squeeze_by_words`.
-/

namespace SceneScript.Text

/-- A text falls into these words: the maximal runs of characters that are not blank, in order. Any
blanks stand before a run, a blank or the end follows it, and below the last run are just blanks. -/
inductive FallsInto : List Char → List (List Char) → Prop
  | blanks {gap : List Char} (hgap : ∀ c ∈ gap, isBlank c = true) : FallsInto gap []
  | run {gap w rest : List Char} {ws : List (List Char)} (hgap : ∀ c ∈ gap, isBlank c = true)
      (hne : w ≠ []) (hw : ∀ c ∈ w, isBlank c = false) (hrest : ∀ c ∈ rest.head?, isBlank c = true)
      (below : FallsInto rest ws) : FallsInto (gap ++ (w ++ rest)) (w :: ws)

/-- Writes a mark for each run of characters that satisfy a test. The runs are found from left to
right, and each is as long as it can be. -/
def replaceRuns (p : Char -> Bool) (mark : Char) : List Char -> List Char
  | [] => []
  | c :: cs =>
    if p c then mark :: replaceRuns p mark (cs.dropWhile p) else c :: replaceRuns p mark cs
termination_by cs => cs.length
decreasing_by
  · exact Nat.lt_succ_of_le (List.dropWhile_sublist p).length_le
  · exact Nat.lt_succ_self cs.length

variable {cs gap w : List Char} {ws : List (List Char)}

/-! Runs -/

theorem words_of_blanks (hgap : ∀ c ∈ gap, isBlank c = true) : words gap = [] := by
  rw [← List.append_nil gap, words_append_of_blanks hgap, words_nil]

theorem FallsInto.words_eq (h : FallsInto cs ws) : words cs = ws := by
  induction h with
  | blanks hgap => exact words_of_blanks hgap
  | run hgap hne hw hrest _ ih =>
    have hstart : ∀ c ∈ ([] : List Char).getLast?, isBlank c = true := by simp
    have hwords := words_append_word_append hstart hne hw hrest
    rw [List.nil_append, words_nil, List.nil_append, ih] at hwords
    rw [words_append_of_blanks hgap, hwords]

theorem exists_fallsInto (cs : List Char) : ∃ ws, FallsInto cs ws := by
  -- the blanks at the front and the first word are taken off, and what is left is shorter
  induction hn : cs.length using Nat.strong_induction_on generalizing cs with
  | _ n ih =>
    obtain ⟨w, rest, hbody, hw, hrest⟩ := exists_word_rest (cs.dropWhile isBlank)
    have hgap : ∀ c ∈ cs.takeWhile isBlank, isBlank c = true := fun c hc =>
      List.mem_takeWhile_imp hc
    have hcs : cs = cs.takeWhile isBlank ++ (w ++ rest) := by
      rw [← hbody, List.takeWhile_append_dropWhile]
    by_cases hne : w = []
    · have hnil : rest = [] := by
        rw [hne, List.nil_append] at hbody
        cases rest with
        | nil => rfl
        | cons c rest =>
          have hhead := List.head?_dropWhile_not isBlank cs
          rw [hbody] at hhead
          exact absurd (hrest c rfl) (by simpa using hhead)
      rw [hcs, hne, hnil, List.append_nil, List.append_nil]
      exact ⟨[], .blanks hgap⟩
    · have hlength : rest.length < n := by
        have hsum := congrArg List.length hcs
        rw [List.length_append, List.length_append] at hsum
        have hpos := List.length_pos_iff.mpr hne
        omega
      obtain ⟨ws, hws⟩ := ih rest.length hlength rest rfl
      rw [hcs]
      exact ⟨w :: ws, .run hgap hne hw hrest hws⟩

/-- The words of a text are the only ones that it falls into. -/
theorem fallsInto_iff : FallsInto cs ws ↔ words cs = ws := by
  constructor
  · exact FallsInto.words_eq
  · rintro rfl
    obtain ⟨ws, hws⟩ := exists_fallsInto cs
    rwa [hws.words_eq]

theorem ne_nil_of_mem_words (hw : w ∈ words cs) : w ≠ [] := by
  simpa using (List.mem_filter.mp hw).2

/-! Runs of blanks that are collapsed -/

theorem collapse_cons_solid {c : Char} (hc : isBlank c = false) (afterBlank : Bool)
    (cs : List Char) : collapse afterBlank (c :: cs) = c :: collapse false cs := by
  rw [collapse, if_neg (by simp [hc])]

theorem collapse_cons_blank {c : Char} (hc : isBlank c = true) (cs : List Char) :
    collapse false (c :: cs) = ' ' :: collapse true cs := by
  rw [collapse, if_pos hc, if_neg Bool.false_ne_true]

theorem collapse_true_cons_blank {c : Char} (hc : isBlank c = true) (cs : List Char) :
    collapse true (c :: cs) = collapse true cs := by
  rw [collapse, if_pos hc, if_pos rfl]

/-- To collapse a text is to write a space for each run of blanks, and nothing for the first one if
a blank was read before. -/
theorem collapse_eq_replaceRuns (cs : List Char) :
    collapse false cs = replaceRuns isBlank ' ' cs ∧
      collapse true cs = replaceRuns isBlank ' ' (cs.dropWhile isBlank) := by
  induction cs with
  | nil => simp [collapse, replaceRuns]
  | cons c cs ih =>
    by_cases hc : isBlank c = true
    · rw [collapse_cons_blank hc, collapse_true_cons_blank hc, List.dropWhile_cons_of_pos hc,
        replaceRuns, if_pos hc, ih.2]
      exact ⟨rfl, rfl⟩
    · rw [List.dropWhile_cons_of_neg hc, replaceRuns, if_neg hc, ← ih.1]
      rw [Bool.not_eq_true] at hc
      exact ⟨collapse_cons_solid hc false cs, collapse_cons_solid hc true cs⟩

theorem collapse_true_append_of_blanks (hgap : ∀ c ∈ gap, isBlank c = true) (cs : List Char) :
    collapse true (gap ++ cs) = collapse true cs := by
  induction gap with
  | nil => rfl
  | cons c gap ih =>
    rw [List.cons_append, collapse_true_cons_blank (hgap c List.mem_cons_self),
      ih (fun d hd => hgap d (List.mem_cons_of_mem c hd))]

theorem collapse_false_append_of_solid (hw : ∀ c ∈ w, isBlank c = false) (cs : List Char) :
    collapse false (w ++ cs) = w ++ collapse false cs := by
  induction w with
  | nil => rfl
  | cons c w ih =>
    rw [List.cons_append, collapse_cons_solid (hw c List.mem_cons_self),
      ih (fun d hd => hw d (List.mem_cons_of_mem c hd)), List.cons_append]

theorem collapse_append_of_solid (hne : w ≠ []) (hw : ∀ c ∈ w, isBlank c = false)
    (afterBlank : Bool) (cs : List Char) :
    collapse afterBlank (w ++ cs) = w ++ collapse false cs := by
  obtain ⟨c, w, rfl⟩ := List.exists_cons_of_ne_nil hne
  rw [← collapse_false_append_of_solid hw, List.cons_append,
    collapse_cons_solid (hw c List.mem_cons_self), collapse_cons_solid (hw c List.mem_cons_self)]

/-! Texts that are squeezed -/

/-- No blank is at the front of what is collapsed behind a blank, so just its end is trimmed. -/
theorem trim_collapse_true (cs : List Char) :
    trim (collapse true cs) = dropEndWhile isBlank (collapse true cs) := by
  induction cs with
  | nil => rfl
  | cons c cs ih =>
    by_cases hc : isBlank c = true
    · rw [collapse_true_cons_blank hc, ih]
    · rw [Bool.not_eq_true] at hc
      rw [collapse_cons_solid hc, trim, List.dropWhile_cons_of_neg (by simp [hc])]

theorem squeeze_eq_dropEndWhile (cs : List Char) :
    squeeze cs = dropEndWhile isBlank (collapse true cs) := by
  rw [squeeze]
  cases cs with
  | nil => rfl
  | cons c cs =>
    by_cases hc : isBlank c = true
    · rw [collapse_cons_blank hc, trim_cons_blank rfl, trim_collapse_true,
        collapse_true_cons_blank hc]
    · rw [Bool.not_eq_true] at hc
      rw [← trim_collapse_true, collapse_cons_solid hc, collapse_cons_solid hc]

/-- Below a word a space is written just if another word follows. -/
theorem dropEndWhile_collapse_false {rest : List Char}
    (hrest : ∀ c ∈ rest.head?, isBlank c = true) :
    dropEndWhile isBlank (collapse false rest) =
      if squeeze rest = [] then [] else ' ' :: squeeze rest := by
  rw [squeeze_eq_dropEndWhile]
  cases rest with
  | nil => rfl
  | cons c rest =>
    have hc : isBlank c = true := hrest c rfl
    rw [collapse_cons_blank hc, collapse_true_cons_blank hc]
    split
    · rename_i hnil
      rw [dropEndWhile_eq_rdropWhile, List.rdropWhile_eq_nil_iff] at hnil ⊢
      exact List.forall_mem_cons.mpr ⟨rfl, hnil⟩
    · rename_i hne
      exact dropEndWhile_cons_of_ne_nil hne ' '

theorem words_eq_nil_of_squeeze (h : squeeze cs = []) : words cs = [] := by
  rw [← words_squeeze, h, words_nil]

/-- A squeezed text is put together from its words. -/
theorem FallsInto.squeeze_eq (h : FallsInto cs ws) : squeeze cs = [' '].intercalate ws := by
  induction h with
  | @blanks gap hgap =>
    have hcollapse := collapse_true_append_of_blanks hgap []
    rw [List.append_nil] at hcollapse
    rw [squeeze_eq_dropEndWhile, hcollapse]
    rfl
  | @run gap w rest ws hgap hne hw hrest hbelow ih =>
    rw [squeeze_eq_dropEndWhile, collapse_true_append_of_blanks hgap,
      collapse_append_of_solid hne hw, dropEndWhile_append_of_forall hw,
      dropEndWhile_collapse_false hrest]
    cases ws with
    | nil =>
      rw [List.intercalate_nil] at ih
      rw [if_pos ih, List.append_nil, List.intercalate_singleton]
    | cons v ws =>
      have hmore : squeeze rest ≠ [] := by
        intro hnil
        have hwords := words_eq_nil_of_squeeze hnil
        rw [hbelow.words_eq] at hwords
        cases hwords
      rw [if_neg hmore, ih, List.intercalate_cons_cons, List.append_assoc, List.singleton_append]

theorem squeeze_eq_intercalate (cs : List Char) : squeeze cs = [' '].intercalate (words cs) :=
  (fallsInto_iff.mpr rfl).squeeze_eq

theorem squeeze_squeeze (cs : List Char) : squeeze (squeeze cs) = squeeze cs := by
  rw [squeeze_eq_intercalate (squeeze cs), words_squeeze, ← squeeze_eq_intercalate]

/-- A squeezed text falls into its words at the spaces, and is one empty piece without a word. -/
theorem splitOn_squeeze (cs : List Char) :
    (squeeze cs).splitOn ' ' = if words cs = [] then [[]] else words cs := by
  rw [squeeze_eq_intercalate]
  split
  · rename_i hnil
    rw [hnil]
    rfl
  · rename_i hne
    apply List.splitOn_intercalate ' ' _ hne
    intro w hw hspace
    have hsolid := (mem_of_mem_words hw hspace).2
    cases hsolid

/-- The words of a text are the pieces of what is squeezed of it, by their places. -/
theorem word_eq_getD_splitOn (n : Nat) (cs : List Char) :
    word n cs = ((squeeze cs).splitOn ' ').getD n [] := by
  rw [word, splitOn_squeeze]
  split
  · rename_i hnil
    rw [hnil]
    cases n <;> rfl
  · rfl

/-- A text is squeezed when each run of blanks is replaced by a space and the ends are trimmed. This
gives its words, the maximal runs of characters that are not blank, joined by single spaces. The
spaces part the result into just these words, or into one empty piece if there are none, so a word
is found in the result at its place. Nothing is left to squeeze in it. -/
theorem squeeze_by_words (cs : List Char) :
    (∀ ws, FallsInto cs ws ↔ words cs = ws) ∧
    squeeze cs = trim (replaceRuns isBlank ' ' cs) ∧
    squeeze cs = [' '].intercalate (words cs) ∧
    (squeeze cs).splitOn ' ' = (if words cs = [] then [[]] else words cs) ∧
    (∀ w ∈ words cs, w ≠ [] ∧ ∀ c ∈ w, isBlank c = false) ∧
    (∀ n, word n cs = ((squeeze cs).splitOn ' ').getD n []) ∧
    squeeze (squeeze cs) = squeeze cs := by
  refine ⟨fun ws => fallsInto_iff, ?_, squeeze_eq_intercalate cs, splitOn_squeeze cs, ?_,
    fun n => word_eq_getD_splitOn n cs, squeeze_squeeze cs⟩
  · rw [squeeze, (collapse_eq_replaceRuns cs).1]
  · intro w hw
    exact ⟨ne_nil_of_mem_words hw, fun c hc => (mem_of_mem_words hw hc).2⟩

/-- A text with blanks of several kinds at its ends and between its words. -/
def loosePhrase : List Char := "\t\u3000scene \u2003\x1ca<k:on>\x0b->\r\n".toList

/-- The words of `loosePhrase`. -/
def loosePhraseWords : List (List Char) := ["scene".toList, "a<k:on>".toList, "->".toList]

theorem squeeze_by_words_of_loosePhrase :
    FallsInto loosePhrase loosePhraseWords ∧
      squeeze loosePhrase = "scene a<k:on> ->".toList ∧
      (squeeze loosePhrase).splitOn ' ' = loosePhraseWords ∧
      word 3 loosePhrase = [] ∧
      (squeeze ['\t', ' ']).splitOn ' ' = [[]] := by
  have hwords : words loosePhrase = loosePhraseWords := by decide +kernel
  obtain ⟨hfalls, -, hjoined, hsplit, -, hword, -⟩ := squeeze_by_words loosePhrase
  obtain ⟨-, -, -, hblank, -⟩ := squeeze_by_words ['\t', ' ']
  have hnone : words ['\t', ' '] = [] := by decide +kernel
  rw [if_neg (by rw [hwords]; decide), hwords] at hsplit
  refine ⟨(hfalls _).mpr hwords, ?_, hsplit, ?_, ?_⟩
  · rw [hjoined, hwords]
    rfl
  · rw [hword, hsplit]
    rfl
  · rw [hblank, if_pos hnone]

end SceneScript.Text
