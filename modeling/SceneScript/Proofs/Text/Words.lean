import SceneScript.Proofs.Text.Parts

set_option autoImplicit false
set_option relaxedAutoImplicit false

/-!
# Words around a segment

A text is cut into words wherever a blank stands, so the words of a text that is put together from
parts are those of its parts, but for the one word that runs on from part to part. Main statements:
`Segment.exists_word_of_solid` and `Segment.exists_word_of_blank` say what the word is in which the
first bracket of a segment stands, when the segment holds no blank and when it holds one.
-/

namespace SceneScript.Text

/-- The bracket that opens a segment stands in the word at a position counted from zero. -/
def Segment.OpensInWord (s : Segment) (n : Nat) : Prop :=
  (words (s.left ++ ['<'])).length = n + 1

instance (s : Segment) (n : Nat) : Decidable (s.OpensInWord n) :=
  inferInstanceAs (Decidable (_ = _))

/-! Parts of a word -/

/-- The start of a word ends each text. It is empty where the text is, or ends in a blank. -/
theorem exists_word_start (cs : List Char) :
    ∃ above left, cs = above ++ left ∧ (∀ c ∈ above.getLast?, isBlank c = true) ∧
      ∀ c ∈ left, isBlank c = false := by
  refine ⟨cs.rdropWhile (fun c => !isBlank c), cs.rtakeWhile (fun c => !isBlank c),
    (List.rdropWhile_append_rtakeWhile ..).symm, ?_, ?_⟩
  · intro c hc
    rw [← dropEndWhile_eq_rdropWhile] at hc
    simpa using getLast?_dropEndWhile hc
  · intro c hc
    simpa using List.mem_rtakeWhile_imp hc

/-- The rest of a word begins each text. It is empty where the text is, or begins with a blank. -/
theorem exists_word_rest (cs : List Char) :
    ∃ right below, cs = right ++ below ∧ (∀ c ∈ right, isBlank c = false) ∧
      ∀ c ∈ below.head?, isBlank c = true := by
  refine ⟨cs.takeWhile (fun c => !isBlank c), cs.dropWhile (fun c => !isBlank c),
    List.takeWhile_append_dropWhile.symm, ?_, ?_⟩
  · intro c hc
    simpa using List.mem_takeWhile_imp hc
  · intro c hc
    have hhead := List.head?_dropWhile_not (fun d => !isBlank d) cs
    rw [hc] at hhead
    simpa using hhead

section Around

variable {above w below : List Char}

/-- A word at the end of a text is its last one. -/
theorem words_append_word (habove : ∀ c ∈ above.getLast?, isBlank c = true) (hne : w ≠ [])
    (hw : ∀ c ∈ w, isBlank c = false) : words (above ++ w) = words above ++ [w] := by
  rcases List.eq_nil_or_concat' above with rfl | ⟨start, c, rfl⟩
  · rw [List.nil_append, words_of_solid hne hw, words_nil, List.nil_append]
  · have hc : isBlank c = true := habove c (by simp)
    rw [List.append_assoc, List.singleton_append, words_append_blank start hc,
      words_of_solid hne hw, words_append_blank start hc, words_nil, List.append_nil]

/-- The words of a text are those above a word, the word, and those below it. -/
theorem words_append_word_append (habove : ∀ c ∈ above.getLast?, isBlank c = true) (hne : w ≠ [])
    (hw : ∀ c ∈ w, isBlank c = false) (hbelow : ∀ c ∈ below.head?, isBlank c = true) :
    words (above ++ (w ++ below)) = words above ++ w :: words below := by
  rw [← List.append_assoc]
  cases below with
  | nil =>
    rw [List.append_nil, words_append_word habove hne hw, words_nil]
  | cons c rest =>
    have hc : isBlank c = true := hbelow c rfl
    rw [words_append_blank _ hc, words_append_word habove hne hw, words_cons_blank hc,
      List.append_assoc, List.singleton_append]

theorem word_append_word_append (habove : ∀ c ∈ above.getLast?, isBlank c = true) (hne : w ≠ [])
    (hw : ∀ c ∈ w, isBlank c = false) (hbelow : ∀ c ∈ below.head?, isBlank c = true) :
    word (words above).length (above ++ (w ++ below)) = w ∧
      ∀ k, word ((words above).length + 1 + k) (above ++ (w ++ below)) = word k below := by
  have hwords := words_append_word_append habove hne hw hbelow
  constructor
  · rw [word, hwords]
    simp
  · intro k
    rw [word, hwords, word, Nat.add_assoc, Nat.add_comm 1 k]
    simp [List.getElem?_append_right]

end Around

/-! Words with a bracket -/

namespace Segment

variable {s : Segment} {n : Nat}

theorem OpensInWord.exists_start (h : s.OpensInWord n) :
    ∃ above left, s.left = above ++ left ∧ (∀ c ∈ above.getLast?, isBlank c = true) ∧
      (∀ c ∈ left, isBlank c = false) ∧ (words above).length = n := by
  obtain ⟨above, left, hleft, habove, hsolid⟩ := exists_word_start s.left
  refine ⟨above, left, hleft, habove, hsolid, ?_⟩
  have hopen : ∀ c ∈ left ++ ['<'], isBlank c = false := by
    intro c hc
    rcases List.mem_append.mp hc with hc | hc
    · exact hsolid c hc
    · rw [List.mem_singleton.mp hc]
      rfl
  rw [OpensInWord, hleft, List.append_assoc, words_append_word habove (by simp) hopen,
    List.length_append] at h
  exact Nat.succ.inj h

theorem solid_of_brackets {left inner right : List Char} (hleft : ∀ c ∈ left, isBlank c = false)
    (hinner : ∀ c ∈ inner, isBlank c = false) (hright : ∀ c ∈ right, isBlank c = false) :
    ∀ c ∈ left ++ '<' :: (inner ++ '>' :: right), isBlank c = false := by
  simp only [List.mem_append, List.mem_cons]
  rintro c (hc | rfl | hc | rfl | hc)
  · exact hleft c hc
  · rfl
  · exact hinner c hc
  · rfl
  · exact hright c hc

/-- A segment without blanks stands in one word, and what follows this word follows the segment. -/
theorem exists_word_of_solid (h : s.OpensInWord n) (hinner : ∀ c ∈ s.inner, isBlank c = false) :
    ∃ above left right below, s.left = above ++ left ∧ s.right = right ++ below ∧
      word n s.text = left ++ '<' :: (s.inner ++ '>' :: right) ∧
      ∀ k, word (n + 1 + k) s.text = word k below := by
  obtain ⟨above, left, hleft, habove, hleftSolid, rfl⟩ := h.exists_start
  obtain ⟨right, below, hright, hrightSolid, hbelow⟩ := exists_word_rest s.right
  have htext : s.text = above ++ ((left ++ '<' :: (s.inner ++ '>' :: right)) ++ below) := by
    rw [text, hleft, hright]
    simp
  obtain ⟨hword, hrest⟩ := word_append_word_append habove (by simp)
    (solid_of_brackets hleftSolid hinner hrightSolid) hbelow
  refine ⟨above, left, right, below, hleft, hright, ?_, ?_⟩
  · rw [htext, hword]
  · intro k
    rw [htext, hrest]

/-- The word in which a segment with a blank starts ends within the segment. -/
theorem exists_word_of_blank (h : s.OpensInWord n) (hinner : ∃ c ∈ s.inner, isBlank c = true) :
    ∃ above left start rest, s.left = above ++ left ∧ s.inner = start ++ rest ∧
      word n s.text = left ++ '<' :: start := by
  obtain ⟨above, left, hleft, habove, hleftSolid, rfl⟩ := h.exists_start
  obtain ⟨start, rest, hsplit, hstart, hrest⟩ := exists_word_rest s.inner
  have hblank : ∀ c ∈ (rest ++ '>' :: s.right).head?, isBlank c = true := by
    cases rest with
    | nil =>
      -- all of the segment would be free of blanks
      obtain ⟨c, hc, hcblank⟩ := hinner
      rw [hsplit, List.append_nil] at hc
      rw [hstart c hc] at hcblank
      cases hcblank
    | cons c rest => exact hrest
  have hsolid : ∀ c ∈ left ++ '<' :: start, isBlank c = false := by
    simp only [List.mem_append, List.mem_cons]
    rintro c (hc | rfl | hc)
    · exact hleftSolid c hc
    · rfl
    · exact hstart c hc
  have htext : s.text = above ++ ((left ++ '<' :: start) ++ (rest ++ '>' :: s.right)) := by
    rw [text, hleft, hsplit]
    simp
  refine ⟨above, left, start, rest, hleft, hsplit, ?_⟩
  rw [htext, (word_append_word_append habove (by simp) hsolid hblank).1]

end Segment

end SceneScript.Text
