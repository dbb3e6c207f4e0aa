import SceneScript.Proofs.Script.Offence
import SceneScript.Proofs.Text.Spacing

set_option autoImplicit false
set_option relaxedAutoImplicit false

/-!
# Text after a declaration

Which colon ends a declaration is said by the places of the colons and of the first bracketed
segment, and whether a declaration is refused is then a matter of the characters below that colon:
`inlineText_by_place`. It is the colon that a search by places finds, which looks at the first colon
and goes on below the segment if it must: `hasInlineText_by_search`. Colons and brackets are not
blank, so none of this changes with the blanks of a line, and declarations of the same words are
read alike: `declarations_by_words`.
-/

namespace SceneScript

open Text (Segment parameterPattern)

/-- A place of a text, counted from zero, is between the brackets of the first segment. -/
def InFirstSegment (cs : List Char) (i : Nat) : Prop :=
  ∃ s : Segment, s.IsFirstIn cs ∧ s.left.length < i ∧ i < s.left.length + 1 + s.inner.length

/-- The colon of a declaration stands at a place, counted from zero: the first colon of the text
that is not in the first segment. -/
structure IsDeclarationColon (cs : List Char) (i : Nat) : Prop where
  colon : cs[i]? = some ':'
  outside : ¬ InFirstSegment cs i
  first : ∀ j < i, cs[j]? = some ':' → InFirstSegment cs j

section Places

variable {cs above rest : List Char} {s : Segment} {i j : Nat}

theorem inFirstSegment_iff (hs : s.IsFirstIn cs) :
    InFirstSegment cs i ↔ s.left.length < i ∧ i < s.left.length + 1 + s.inner.length := by
  constructor
  · rintro ⟨t, ht, hplace⟩
    obtain rfl : s = t := hs.unique ht
    exact hplace
  · intro hplace
    exact ⟨s, hs, hplace⟩

theorem IsDeclarationColon.unique (hi : IsDeclarationColon cs i) (hj : IsDeclarationColon cs j) :
    i = j := by
  rcases Nat.lt_trichotomy i j with hlt | rfl | hlt
  · exact absurd (hj.first i hlt hi.colon) hi.outside
  · rfl
  · exact absurd (hi.first j hlt hj.colon) hj.outside

theorem isDeclarationColon_append
    (houtside : ¬ InFirstSegment (above ++ ':' :: rest) above.length)
    (hfirst : ∀ j, above[j]? = some ':' → InFirstSegment (above ++ ':' :: rest) j) :
    IsDeclarationColon (above ++ ':' :: rest) above.length where
  colon := by simp
  outside := houtside
  first := by
    intro j hj hcolon
    rw [List.getElem?_append_left hj] at hcolon
    exact hfirst j hcolon

/-- A colon below the start of a segment is in it or in what follows it. -/
theorem place_of_colon (hleft : ':' ∉ s.left) (h : s.text[j]? = some ':') :
    s.left.length < j ∧ (j < s.left.length + 1 + s.inner.length ∨ ':' ∈ s.right) := by
  have hbelow : ¬ j < s.left.length := by
    intro hlt
    rw [Segment.text, List.getElem?_append_left hlt] at h
    exact hleft (List.mem_of_getElem? h)
  obtain ⟨k, rfl⟩ := Nat.exists_eq_add_of_le (Nat.le_of_not_lt hbelow)
  rw [Segment.text, List.getElem?_append_right (by omega), Nat.add_sub_cancel_left] at h
  cases k with
  | zero => simp at h
  | succ k =>
    refine ⟨by omega, ?_⟩
    rw [List.getElem?_cons_succ] at h
    by_cases hk : k < s.inner.length
    · exact .inl (by omega)
    · rw [List.getElem?_append_right (by omega)] at h
      rcases List.mem_cons.mp (List.mem_of_getElem? h) with heq | hmem
      · cases heq
      · exact .inr hmem

/-! The colon that is found -/

theorem afterDeclaration?_of_none (hnone : ∀ s : Segment, ¬ s.IsFirstIn cs) :
    afterDeclaration? cs = Text.after? ':' cs := by
  rw [afterDeclaration?, Text.firstSegment?_eq_none_iff.mpr hnone]

theorem afterDeclaration?_of_isFirstIn (hs : s.IsFirstIn cs) :
    afterDeclaration? cs =
      if ':' ∈ s.left then Text.after? ':' cs else Text.after? ':' s.right := by
  rw [afterDeclaration?, Text.firstSegment?_eq_some_iff.mpr hs]
  simp only [List.contains_iff_mem]

/-- The first colon of a text is that of the declaration unless it is in the first segment. -/
theorem isDeclarationColon_of_not_mem (habove : ':' ∉ above)
    (houtside : ¬ InFirstSegment (above ++ ':' :: rest) above.length) :
    IsDeclarationColon (above ++ ':' :: rest) above.length := by
  apply isDeclarationColon_append houtside
  intro j hj
  exact absurd (List.mem_of_getElem? hj) habove

/-- A declaration goes on below its colon. -/
theorem exists_of_afterDeclaration? (h : afterDeclaration? cs = some rest) :
    ∃ above, cs = above ++ ':' :: rest ∧ IsDeclarationColon cs above.length := by
  by_cases hsegment : ∃ s : Segment, s.IsFirstIn cs
  · obtain ⟨s, hs⟩ := hsegment
    rw [afterDeclaration?_of_isFirstIn hs] at h
    split at h
    · rename_i hcolon
      obtain ⟨above, left, hleft, habove⟩ := List.eq_append_cons_of_mem hcolon
      have hcs : cs = above ++ ':' :: (left ++ '<' :: (s.inner ++ '>' :: s.right)) := by
        rw [hs.text_eq, Segment.text, hleft, List.append_assoc, List.cons_append]
      rw [hcs, Text.after?_append habove] at h
      obtain rfl := Option.some.inj h
      refine ⟨above, hcs, ?_⟩
      rw [hcs]
      apply isDeclarationColon_of_not_mem habove
      rw [← hcs, inFirstSegment_iff hs, hleft, List.length_append]
      omega
    · rename_i hcolon
      obtain ⟨right, hright, hnot⟩ := Text.exists_of_after?_eq_some h
      let t : Segment := ⟨s.left, s.inner, right⟩
      have hcs : cs = t.text ++ ':' :: rest := by
        rw [hs.text_eq, Segment.text, Segment.text, hright]
        simp [t]
      refine ⟨t.text, hcs, ?_⟩
      rw [hcs]
      apply isDeclarationColon_append
      · rw [← hcs, inFirstSegment_iff hs]
        simp only [Segment.text, t, List.length_append, List.length_cons]
        omega
      · intro j hj
        obtain ⟨hlow, hplace⟩ := place_of_colon (s := t) hcolon hj
        rw [← hcs, inFirstSegment_iff hs]
        exact ⟨hlow, hplace.resolve_right hnot⟩
  · rw [not_exists] at hsegment
    rw [afterDeclaration?_of_none hsegment] at h
    obtain ⟨above, rfl, habove⟩ := Text.exists_of_after?_eq_some h
    refine ⟨above, rfl, isDeclarationColon_of_not_mem habove ?_⟩
    rintro ⟨s, hs, -⟩
    exact hsegment s hs

/-- Where no colon is found, each colon is in the first segment. -/
theorem not_isDeclarationColon (h : afterDeclaration? cs = none) (i : Nat) :
    ¬ IsDeclarationColon cs i := by
  intro hi
  have hmem : ':' ∈ cs := List.mem_of_getElem? hi.colon
  by_cases hsegment : ∃ s : Segment, s.IsFirstIn cs
  · obtain ⟨s, hs⟩ := hsegment
    rw [afterDeclaration?_of_isFirstIn hs] at h
    split at h
    · exact Text.not_mem_of_after?_eq_none h hmem
    · rename_i hleft
      have hcolon := hi.colon
      rw [hs.text_eq] at hcolon
      obtain ⟨hlow, hplace⟩ := place_of_colon hleft hcolon
      apply hi.outside
      rw [inFirstSegment_iff hs]
      exact ⟨hlow, hplace.resolve_right (Text.not_mem_of_after?_eq_none h)⟩
  · rw [not_exists] at hsegment
    rw [afterDeclaration?_of_none hsegment] at h
    exact Text.not_mem_of_after?_eq_none h hmem

theorem afterDeclaration?_eq_some_iff :
    afterDeclaration? cs = some rest ↔
      ∃ above, cs = above ++ ':' :: rest ∧ IsDeclarationColon cs above.length := by
  constructor
  · exact exists_of_afterDeclaration?
  · rintro ⟨above, hcs, hcolon⟩
    rcases h : afterDeclaration? cs with _ | rest'
    · exact absurd hcolon (not_isDeclarationColon h above.length)
    · obtain ⟨above', hcs', hcolon'⟩ := exists_of_afterDeclaration? h
      have hlength : above'.length = above.length := hcolon'.unique hcolon
      have hcons := (List.append_inj (hcs'.symm.trans hcs) hlength).2
      rw [(List.cons.inj hcons).2]

theorem afterDeclaration?_of_colon (h : IsDeclarationColon cs i) :
    afterDeclaration? cs = some (cs.drop (i + 1)) := by
  obtain ⟨hi, hget⟩ := List.getElem?_eq_some_iff.mp h.colon
  have hlength : (cs.take i).length = i := by
    rw [List.length_take]
    omega
  have hcs : cs = cs.take i ++ ':' :: cs.drop (i + 1) := by
    rw [← hget, List.getElem_cons_drop, List.take_append_drop]
  exact afterDeclaration?_eq_some_iff.mpr ⟨cs.take i, hcs, hlength.symm ▸ h⟩

end Places

/-! The search for the colon -/

/-- The first place of a mark from a place on. -/
def findFrom (mark : Char) (start : Nat) (cs : List Char) : Option Nat :=
  ((cs.drop start).findIdx? (fun c => c == mark)).map (fun k => start + k)

/-- The colon of a declaration by search: the first colon, or, if the pattern of a segment matches
around that one, the first colon below the match. -/
def foundColon? (cs : List Char) : Option Nat :=
  match findFrom ':' 0 cs, parameterPattern.search? cs with
  | some colon, some found =>
    let stop := cs.length - found.below.length
    if found.above.length < colon ∧ colon < stop then findFrom ':' stop cs else some colon
  | colon, _ => colon

section Search

variable {cs above rest : List Char} {s : Segment} {mark : Char}

theorem after?_drop_eq_map_findFrom (mark : Char) (start : Nat) (cs : List Char) :
    Text.after? mark (cs.drop start) =
      (findFrom mark start cs).map (fun i => cs.drop (i + 1)) := by
  rw [findFrom, Option.map_map, Function.comp_def]
  simp only [Nat.add_assoc, ← List.drop_drop]
  generalize cs.drop start = ds
  induction ds with
  | nil => rfl
  | cons c ds ih =>
    rw [List.findIdx?_cons]
    by_cases hc : c = mark
    · simp [hc, Text.after?_cons_self]
    · simp [hc, Text.after?_cons_of_ne hc, ih, Function.comp_def]

theorem findIdx?_eq_none_of_not_mem (h : mark ∉ above) :
    above.findIdx? (fun c => c == mark) = none := by
  rw [List.findIdx?_eq_none_iff]
  intro c hc
  exact beq_false_of_ne (fun hmark => h (hmark ▸ hc))

theorem findFrom_append_mark (h : mark ∉ above) (rest : List Char) :
    findFrom mark 0 (above ++ mark :: rest) = some above.length := by
  rw [findFrom, List.drop_zero, List.findIdx?_append, findIdx?_eq_none_of_not_mem h,
    List.findIdx?_cons]
  simp

/-- What stands above the start of a search is passed over if the mark is not in it. -/
theorem findFrom_append (h : mark ∉ above) (rest : List Char) :
    findFrom mark 0 (above ++ rest) = findFrom mark above.length (above ++ rest) := by
  rw [findFrom, findFrom, List.drop_zero, List.drop_left, List.findIdx?_append,
    findIdx?_eq_none_of_not_mem h]
  simp [Function.comp_def, Nat.add_comm]

/-- What a segment and the text above it take up. -/
theorem exists_text_eq_append (s : Segment) :
    ∃ upto, s.text = upto ++ s.right ∧ upto.length = s.left.length + s.inner.length + 2 ∧
      (':' ∉ s.left → ':' ∉ s.inner → ':' ∉ upto) := by
  refine ⟨s.left ++ '<' :: (s.inner ++ ['>']), ?_, ?_, ?_⟩
  · simp [Segment.text]
  · simp only [List.length_append, List.length_cons, List.length_nil]
    omega
  · intro hleft hinner
    simp [hleft, hinner]

theorem foundColon?_of_isFirstIn (hs : s.IsFirstIn cs) :
    foundColon? cs =
      if ':' ∈ s.left then findFrom ':' 0 cs
      else findFrom ':' (s.left.length + s.inner.length + 2) cs := by
  have hsearch : parameterPattern.search? cs = some ⟨s.left, [s.inner], s.right⟩ := by
    rw [Text.search?_parameterPattern, Text.firstSegment?_eq_some_iff.mpr hs]
    rfl
  have hstop : cs.length - s.right.length = s.left.length + s.inner.length + 2 := by
    rw [hs.text_eq, Segment.text]
    simp only [List.length_append, List.length_cons]
    omega
  rw [foundColon?, hsearch]
  by_cases hleft : ':' ∈ s.left
  · obtain ⟨above, left, hsplit, habove⟩ := List.eq_append_cons_of_mem hleft
    have hcs : cs = above ++ ':' :: (left ++ '<' :: (s.inner ++ '>' :: s.right)) := by
      rw [hs.text_eq, Segment.text, hsplit, List.append_assoc, List.cons_append]
    have hlength : above.length ≤ s.left.length := by
      rw [hsplit, List.length_append]
      omega
    have hcolon : findFrom ':' 0 cs = some above.length := by
      rw [hcs]
      exact findFrom_append_mark habove _
    rw [if_pos hleft, hcolon]
    simp only
    rw [if_neg (by omega)]
  · rw [if_neg hleft]
    by_cases hinner : ':' ∈ s.inner
    · obtain ⟨above, inner, hsplit, habove⟩ := List.eq_append_cons_of_mem hinner
      have hcs : cs = (s.left ++ '<' :: above) ++ ':' :: (inner ++ '>' :: s.right) := by
        rw [hs.text_eq, Segment.text, hsplit]
        simp
      have hcolon : findFrom ':' 0 cs = some (s.left ++ '<' :: above).length := by
        rw [hcs]
        exact findFrom_append_mark (by simp [hleft, habove]) _
      have hlength := congrArg List.length hsplit
      simp only [List.length_append, List.length_cons] at hcolon hlength
      rw [hcolon]
      simp only [hstop]
      rw [if_pos (by omega)]
    · -- the first colon is the first one below the segment
      obtain ⟨upto, htext, hlength, hupto⟩ := exists_text_eq_append s
      have hcolon : findFrom ':' 0 cs =
          findFrom ':' (s.left.length + s.inner.length + 2) cs := by
        rw [← hlength, hs.text_eq, htext]
        exact findFrom_append (hupto hleft hinner) s.right
      rw [hcolon, findFrom]
      rcases (cs.drop _).findIdx? _ with _ | k
      · rfl
      · simp only [Option.map_some]
        rw [if_neg (by omega)]

theorem foundColon?_of_none (hnone : ∀ s : Segment, ¬ s.IsFirstIn cs) :
    foundColon? cs = findFrom ':' 0 cs := by
  rw [foundColon?, Text.search?_parameterPattern, Text.firstSegment?_eq_none_iff.mpr hnone]
  rcases findFrom ':' 0 cs with _ | colon <;> rfl

/-- To cut a text at its declaration colon is to search for the colon and to drop what the search
has passed. -/
theorem afterDeclaration?_by_search (cs : List Char) :
    afterDeclaration? cs = (foundColon? cs).map (fun i => cs.drop (i + 1)) := by
  by_cases hsegment : ∃ s : Segment, s.IsFirstIn cs
  · obtain ⟨s, hs⟩ := hsegment
    obtain ⟨upto, htext, hlength, -⟩ := exists_text_eq_append s
    have hright : cs.drop (s.left.length + s.inner.length + 2) = s.right := by
      rw [← hlength, hs.text_eq, htext, List.drop_left]
    rw [afterDeclaration?_of_isFirstIn hs, foundColon?_of_isFirstIn hs]
    split
    · exact after?_drop_eq_map_findFrom ':' 0 cs
    · rw [← hright]
      exact after?_drop_eq_map_findFrom ':' _ cs
  · rw [not_exists] at hsegment
    rw [afterDeclaration?_of_none hsegment, foundColon?_of_none hsegment]
    exact after?_drop_eq_map_findFrom ':' 0 cs

/-- A declaration is refused if more than blanks is left below the colon that the search finds. -/
theorem hasInlineText_by_search (line : String) :
    hasInlineText line =
      match foundColon? line.toList with
      | none => false
      | some i => !Text.isBlankText (line.toList.drop (i + 1)) := by
  rw [hasInlineText, afterDeclaration?_by_search]
  rcases foundColon? line.toList with _ | i <;> rfl

end Search

/-! Lines with text after the declaration -/

section Lines

variable {line : String} {s : Segment}

theorem hasInlineText_iff :
    hasInlineText line = true ↔
      ∃ rest, afterDeclaration? line.toList = some rest ∧ ∃ c ∈ rest, Text.isBlank c = false := by
  rw [hasInlineText]
  rcases afterDeclaration? line.toList with _ | rest
  · simp
  · simp [Text.isBlankText]

/-- A segment below the colon of a declaration is text. -/
theorem hasInlineText_of_mem_left (hs : s.IsFirstIn line.toList) (hcolon : ':' ∈ s.left) :
    hasInlineText line = true := by
  obtain ⟨above, left, hleft, habove⟩ := List.eq_append_cons_of_mem hcolon
  have hline : line.toList = above ++ ':' :: (left ++ '<' :: (s.inner ++ '>' :: s.right)) := by
    rw [hs.text_eq, Segment.text, hleft, List.append_assoc, List.cons_append]
  rw [hasInlineText_iff, afterDeclaration?_of_isFirstIn hs, if_pos hcolon, hline,
    Text.after?_append habove]
  exact ⟨_, rfl, '<', by simp, rfl⟩

/-- What stands in the first segment has no say in whether there is text. -/
theorem hasInlineText_inner (hs : s.IsFirstIn line.toList) {inner : List Char}
    (hinner : '>' ∉ inner) :
    hasInlineText (String.ofList { s with inner }.text) = hasInlineText line := by
  let t : Segment := { s with inner }
  have ht : t.IsFirstIn (String.ofList t.text).toList :=
    ⟨String.toList_ofList, hs.opens, hinner⟩
  show hasInlineText (String.ofList t.text) = hasInlineText line
  by_cases hcolon : ':' ∈ s.left
  · rw [hasInlineText_of_mem_left hs hcolon, hasInlineText_of_mem_left ht hcolon]
  · rw [hasInlineText, hasInlineText, afterDeclaration?_of_isFirstIn hs,
      afterDeclaration?_of_isFirstIn ht, if_neg hcolon, if_neg hcolon]

end Lines

/-- A declaration is refused if and only if a character that is not blank stands below its colon,
the first colon outside the first segment of the line. A segment that starts below that colon is
text, and what stands in the first segment does not count, whichever colons are in it. -/
theorem inlineText_by_place (line : String) :
    (hasInlineText line = true ↔
      ∃ i, IsDeclarationColon line.toList i ∧
        ∃ j c, i < j ∧ line.toList[j]? = some c ∧ Text.isBlank c = false) ∧
    (∀ (s : Segment) (i : Nat), s.IsFirstIn line.toList → IsDeclarationColon line.toList i →
      i < s.left.length → hasInlineText line = true) ∧
    ∀ (s : Segment) (inner : List Char), s.IsFirstIn line.toList → '>' ∉ inner →
      hasInlineText (String.ofList { s with inner }.text) = hasInlineText line := by
  refine ⟨?_, ?_, fun s inner hs hinner => hasInlineText_inner hs hinner⟩
  · rw [hasInlineText_iff]
    constructor
    · rintro ⟨rest, hrest, c, hc, hsolid⟩
      obtain ⟨above, hline, hcolon⟩ := afterDeclaration?_eq_some_iff.mp hrest
      obtain ⟨k, hk⟩ := List.mem_iff_getElem?.mp hc
      refine ⟨above.length, hcolon, above.length + 1 + k, c, by omega, ?_, hsolid⟩
      rw [hline, List.getElem?_append_right (by omega), Nat.add_assoc, Nat.add_sub_cancel_left,
        Nat.add_comm, List.getElem?_cons_succ, hk]
    · rintro ⟨i, hcolon, j, c, hj, hc, hsolid⟩
      obtain ⟨k, rfl⟩ := Nat.exists_eq_add_of_le (Nat.succ_le_of_lt hj)
      refine ⟨_, afterDeclaration?_of_colon hcolon, c, List.mem_of_getElem? (i := k) ?_, hsolid⟩
      rw [List.getElem?_drop, hc]
  · intro s i hs hcolon hi
    have hget := hcolon.colon
    rw [hs.text_eq, Segment.text, List.getElem?_append_left hi] at hget
    exact hasInlineText_of_mem_left hs (List.mem_of_getElem? hget)

/-- A declaration with colons in its first segment, and text in another one below its colon. -/
def conditionedLine : String := "scene a<k:on:> :<b>"

/-- The first segment of `conditionedLine`. -/
def conditionSegment : Segment := ⟨"scene a".toList, "k:on:".toList, " :<b>".toList⟩

/-- A declaration with its only segment below the colon. -/
def annotatedLine : String := "scene a:<k>"

/-- The first segment of `annotatedLine`. -/
def annotationSegment : Segment := ⟨"scene a:".toList, "k".toList, []⟩

theorem inlineText_by_place_of_conditionedLine :
    (∃ i, IsDeclarationColon conditionedLine.toList i ∧
      ∃ j c, i < j ∧ conditionedLine.toList[j]? = some c ∧ Text.isBlank c = false) ∧
    (annotationSegment.IsFirstIn annotatedLine.toList ∧
      IsDeclarationColon annotatedLine.toList 7 ∧ hasInlineText annotatedLine = true) ∧
    conditionSegment.IsFirstIn conditionedLine.toList ∧ '>' ∉ "::".toList ∧
      hasInlineText (String.ofList { conditionSegment with inner := "::".toList }.text) = true := by
  have htext : hasInlineText conditionedLine = true := by decide
  have hcondition : conditionSegment.IsFirstIn conditionedLine.toList :=
    ⟨by decide, by decide, by decide⟩
  have hsegment : annotationSegment.IsFirstIn annotatedLine.toList :=
    ⟨by decide, by decide, by decide⟩
  have hcolon : IsDeclarationColon annotatedLine.toList 7 := by
    have hfirst : ∀ j < 7, annotatedLine.toList[j]? ≠ some ':' := by decide
    refine ⟨by decide, ?_, fun j hj hget => absurd hget (hfirst j hj)⟩
    rw [inFirstSegment_iff hsegment]
    decide
  obtain ⟨hplace, -, hinner⟩ := inlineText_by_place conditionedLine
  obtain ⟨-, hbelow, -⟩ := inlineText_by_place annotatedLine
  refine ⟨hplace.mp htext, ⟨hsegment, hcolon, ?_⟩, hcondition, by decide, ?_⟩
  · exact hbelow annotationSegment 7 hsegment hcolon (by decide)
  · exact (hinner conditionSegment "::".toList hcondition (by decide)).trans htext

/-! Blanks in a declaration -/

section Blanks

variable {line other : String}

/-- The colon of a declaration is the same among the characters that are kept, if all colons and
brackets are. -/
theorem afterDeclaration?_filter {p : Char -> Bool} (hopen : p '<' = true) (hclose : p '>' = true)
    (hcolon : p ':' = true) (cs : List Char) :
    afterDeclaration? (cs.filter p) = (afterDeclaration? cs).map (List.filter p) := by
  rw [afterDeclaration?, afterDeclaration?, Text.firstSegment?_filter hopen hclose]
  rcases Text.firstSegment? cs with _ | s
  · exact Text.after?_filter hcolon cs
  · have hleft : (s.filter p).left.contains ':' = s.left.contains ':' := by
      rw [Bool.eq_iff_iff, List.contains_iff_mem, List.contains_iff_mem]
      simp [Segment.filter, hcolon]
    simp only [Option.map_some, hleft]
    split
    · exact Text.after?_filter hcolon cs
    · exact Text.after?_filter hcolon s.right

/-- Blanks have no say in whether there is text after a declaration. -/
theorem hasInlineText_of_filter
    (h : line.toList.filter (fun c => !Text.isBlank c) =
      other.toList.filter (fun c => !Text.isBlank c)) :
    hasInlineText line = hasInlineText other := by
  have hsolid : ∀ l : String, hasInlineText l =
      hasInlineText (String.ofList (l.toList.filter (fun c => !Text.isBlank c))) := by
    intro l
    rw [hasInlineText, hasInlineText, String.toList_ofList, afterDeclaration?_filter rfl rfl rfl]
    rcases afterDeclaration? l.toList with _ | rest
    · rfl
    · simp only [Option.map_some, Text.isBlankText_filter]
  rw [hsolid line, hsolid other, h]

theorem hasInlineText_of_words (h : Text.words line.toList = Text.words other.toList) :
    hasInlineText line = hasInlineText other := by
  apply hasInlineText_of_filter
  rw [← Text.flatten_words, ← Text.flatten_words, h]

theorem word_of_words (h : Text.words line.toList = Text.words other.toList) (n : Nat) :
    Text.word n line.toList = Text.word n other.toList := by
  rw [Text.word, Text.word, h]

end Blanks

/-- Declarations with the same words are read alike, whatever blanks stand between the words and at
the ends: both have text after the colon, and are refused for it, or both make the same scene and
the same character. So it does not matter whether a line is squeezed before it is looked through. -/
theorem declarations_by_words :
    (∀ line other : String, Text.words line.toList = Text.words other.toList →
      hasInlineText line = hasInlineText other ∧
      ((∃ scene, Scene.ofLine line = .ok scene ∧ Scene.ofLine other = .ok scene) ∨
        Scene.ofLine line = .error { cause := .inlineText "scenes", line } ∧
          Scene.ofLine other = .error { cause := .inlineText "scenes", line := other }) ∧
      ((∃ character, Character.ofLine line = .ok character ∧
          Character.ofLine other = .ok character) ∨
        Character.ofLine line = .error { cause := .inlineText "characters", line } ∧
          Character.ofLine other = .error { cause := .inlineText "characters", line := other })) ∧
    ∀ line : String,
      hasInlineText line = hasInlineText (String.ofList (Text.squeeze line.toList)) := by
  constructor
  · intro line other hwords
    have hinline := hasInlineText_of_words hwords
    refine ⟨hinline, ?_, ?_⟩
    · by_cases h : hasInlineText line = true
      · exact .inr ⟨sceneOfLine_eq_error_iff.mpr ⟨h, rfl⟩,
          sceneOfLine_eq_error_iff.mpr ⟨hinline ▸ h, rfl⟩⟩
      · left
        rw [Scene.ofLine, Scene.ofLine, ← hinline, if_neg h, if_neg h, word_of_words hwords,
          word_of_words hwords]
        exact ⟨_, rfl, rfl⟩
    · by_cases h : hasInlineText line = true
      · exact .inr ⟨characterOfLine_eq_error_iff.mpr ⟨h, rfl⟩,
          characterOfLine_eq_error_iff.mpr ⟨hinline ▸ h, rfl⟩⟩
      · left
        rw [Character.ofLine, Character.ofLine, ← hinline, if_neg h, if_neg h,
          word_of_words hwords]
        exact ⟨_, rfl, rfl⟩
  · intro line
    apply hasInlineText_of_words
    rw [String.toList_ofList, Text.words_squeeze]

/-- A declaration with blanks of several kinds between its words and at its ends. -/
def spreadLine : String := "\tscene \u2003a<k:on>  ->\x0bb:\r"

/-- The words of `spreadLine`, parted by single spaces. -/
def evenLine : String := "scene a<k:on> -> b:"

/-- A declaration with a colon and blanks in its segment, and text below its own colon. -/
def spreadRefusedLine : String := "character\u3000Al<\t:  >:\tx"

/-- The words of `spreadRefusedLine`, parted by single spaces. -/
def evenRefusedLine : String := "character Al< : >: x"

theorem declarations_by_words_of_spreadLine :
    (Text.words spreadLine.toList = Text.words evenLine.toList ∧
      ∃ scene, Scene.ofLine spreadLine = .ok scene ∧ Scene.ofLine evenLine = .ok scene ∧
        scene = { label := "a", condition := some "k:on", next := some "b" }) ∧
    Text.words spreadRefusedLine.toList = Text.words evenRefusedLine.toList ∧
      Character.ofLine spreadRefusedLine =
        .error { cause := .inlineText "characters", line := spreadRefusedLine } := by
  have heven : Scene.ofLine evenLine =
      .ok { label := "a", condition := some "k:on", next := some "b" } := by decide +kernel
  have hrefused : hasInlineText evenRefusedLine = true := by decide
  have hwords : Text.words spreadLine.toList = Text.words evenLine.toList := by decide +kernel
  have hrefusedWords : Text.words spreadRefusedLine.toList = Text.words evenRefusedLine.toList := by
    decide +kernel
  obtain ⟨-, hscene, -⟩ := declarations_by_words.1 spreadLine evenLine hwords
  obtain ⟨hinline, -, hcharacter⟩ :=
    declarations_by_words.1 spreadRefusedLine evenRefusedLine hrefusedWords
  refine ⟨⟨hwords, ?_⟩, hrefusedWords, ?_⟩
  · rcases hscene with ⟨scene, hspread, heven'⟩ | ⟨-, herror⟩
    · exact ⟨scene, hspread, heven', Except.ok.inj (heven'.symm.trans heven)⟩
    · rw [heven] at herror
      cases herror
  · rcases hcharacter with ⟨character, hspread, -⟩ | ⟨herror, -⟩
    · have hread := characterOfLine_eq_error_iff.mpr ⟨hinline.trans hrefused, rfl⟩
      rw [hspread] at hread
      cases hread
    · exact herror

end SceneScript
