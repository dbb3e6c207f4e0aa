import SceneScript.Proofs.Text.Parts

set_option autoImplicit false
set_option relaxedAutoImplicit false

/-!
# Searching for a segment

The first bracketed segment of a text is found in three ways: by two cuts, by where its brackets
stand, and by a search for a pattern. The search starts at each place of the text, from left to
right, and at one place it tries runs of characters from the longest one down until the rest of the
pattern fits. Main statement: `splitParameter_by_search`.
-/

namespace SceneScript.Text

variable {cs : List Char}

/-! Segments by their brackets -/

/-- The text is read as this segment, no bracket opens above it and none closes within it. -/
structure Segment.IsFirstIn (s : Segment) (cs : List Char) : Prop where
  text_eq : cs = s.text
  opens : '<' ∉ s.left
  closes : '>' ∉ s.inner

theorem firstSegment?_eq_some_iff {s : Segment} : firstSegment? cs = some s ↔ s.IsFirstIn cs := by
  constructor
  · intro h
    obtain ⟨htext, hopens, hcloses⟩ := firstSegment?_spec h
    exact ⟨htext, hopens, hcloses⟩
  · rintro ⟨rfl, hopens, hcloses⟩
    exact firstSegment?_text hopens hcloses

theorem firstSegment?_eq_none_iff : firstSegment? cs = none ↔ ∀ s : Segment, ¬ s.IsFirstIn cs := by
  simp only [← firstSegment?_eq_some_iff, Option.eq_none_iff_forall_ne_some, ne_eq]

/-- A text has one first segment at most. -/
theorem Segment.IsFirstIn.unique {s t : Segment} (hs : s.IsFirstIn cs) (ht : t.IsFirstIn cs) :
    s = t := by
  rw [← firstSegment?_eq_some_iff] at hs ht
  exact Option.some.inj (hs.symm.trans ht)

theorem exists_isFirstIn_iff :
    (∃ s : Segment, s.IsFirstIn cs) ↔
      ∃ above below, cs = above ++ '<' :: below ∧ '<' ∉ above ∧ '>' ∈ below := by
  constructor
  · rintro ⟨s, rfl, hopens, -⟩
    exact ⟨s.left, s.inner ++ '>' :: s.right, rfl, hopens, by simp⟩
  · rintro ⟨above, below, rfl, hopens, hmem⟩
    obtain ⟨inner, right, rfl, hcloses⟩ := List.eq_append_cons_of_mem hmem
    exact ⟨⟨above, inner, right⟩, rfl, hopens, hcloses⟩

/-! Patterns -/

/-- A part of a pattern: one given character, or a run of characters that satisfy a test. -/
inductive PatternPart
  | mark (c : Char)
  | run (p : Char -> Bool)

/-- The parts that have to follow one another. -/
abbrev Pattern := List PatternPart

/-- What a pattern finds: what stands before it, the runs in it, and what follows. -/
structure Found where
  above : List Char
  runs : List (List Char)
  below : List Char
  deriving DecidableEq, Repr

/-- The runs at the start of a text, each with what it leaves. The longest one comes first and the
empty one last. -/
def runsAtStart (p : Char -> Bool) : List Char -> List (List Char × List Char)
  | [] => [([], [])]
  | c :: cs =>
    if p c then (runsAtStart p cs).map (fun r => (c :: r.1, r.2)) ++ [([], c :: cs)]
    else [([], c :: cs)]

namespace Pattern

/-- Fits a pattern to the start of a text: the runs in it and what follows. A run that is tried is
given up for the next one if the rest of the pattern does not fit after it. -/
def fit? : Pattern -> List Char -> Option (List (List Char) × List Char)
  | [], cs => some ([], cs)
  | .mark _ :: _, [] => none
  | .mark m :: parts, c :: cs => if c = m then fit? parts cs else none
  | .run p :: parts, cs =>
    (runsAtStart p cs).findSome? (fun r =>
      (fit? parts r.2).map (fun rest => (r.1 :: rest.1, rest.2)))

/-- Fits a pattern at the first place of a text where it fits. -/
def search? (pattern : Pattern) : List Char -> Option Found
  | [] => (pattern.fit? []).map (fun fit => ⟨[], fit.1, fit.2⟩)
  | c :: cs =>
    match pattern.fit? (c :: cs) with
    | some fit => some ⟨[], fit.1, fit.2⟩
    | none => (search? pattern cs).map (fun found => { found with above := c :: found.above })

end Pattern

/-- An opening bracket, any characters but closing brackets, and a closing bracket. -/
def parameterPattern : Pattern :=
  [.mark '<', .run (fun c => c != '>'), .mark '>']

/-! The pattern of a segment -/

theorem before_cons_of_ne {mark c : Char} (h : c ≠ mark) (cs : List Char) :
    before mark (c :: cs) = c :: before mark cs := by
  rw [before, List.takeWhile_cons_of_pos (by simpa using h), ← before]

theorem after?_cons_of_ne {mark c : Char} (h : c ≠ mark) (cs : List Char) :
    after? mark (c :: cs) = after? mark cs := by
  rw [after?, List.dropWhile_cons_of_pos (by simpa using h), ← after?]

theorem before_cons_self (mark : Char) (cs : List Char) : before mark (mark :: cs) = [] :=
  before_append List.not_mem_nil cs

theorem after?_cons_self (mark : Char) (cs : List Char) : after? mark (mark :: cs) = some cs :=
  after?_append List.not_mem_nil cs

theorem not_mem_of_after?_eq_none {mark : Char} (h : after? mark cs = none) : mark ∉ cs := by
  intro hmem
  obtain ⟨above, below, rfl, habove⟩ := List.eq_append_cons_of_mem hmem
  rw [after?_append habove] at h
  cases h

theorem exists_of_after?_eq_some {mark : Char} {rest : List Char} (h : after? mark cs = some rest) :
    ∃ above, cs = above ++ mark :: rest ∧ mark ∉ above :=
  ⟨before mark cs, eq_of_after?_eq_some h, fun hmem => (mem_of_mem_before hmem).2 rfl⟩

/-- A run up to a mark ends at the first mark: each shorter one is followed by a character that is
not the mark, so to try it is of no use. -/
theorem findSome?_runsAtStart (m : Char) (wrap : List Char -> List Char) (cs : List Char) :
    (runsAtStart (fun c => c != m) cs).findSome? (fun r =>
        (Pattern.fit? [.mark m] r.2).map (fun rest => (wrap r.1 :: rest.1, rest.2))) =
      (after? m cs).map (fun rest => ([wrap (before m cs)], rest)) := by
  induction cs generalizing wrap with
  | nil => rfl
  | cons c cs ih =>
    by_cases hc : c = m
    · subst hc
      simp [runsAtStart, Pattern.fit?, after?_cons_self, before_cons_self]
    · have hshort : Pattern.fit? [.mark m] (c :: cs) = none := by
        rw [Pattern.fit?, if_neg hc]
      have hrun : (c != m) = true := by simpa using hc
      rw [runsAtStart, if_pos hrun, List.findSome?_append, List.findSome?_map,
        after?_cons_of_ne hc, before_cons_of_ne hc, ← ih (fun run => wrap (c :: run))]
      simp [Function.comp_def, hshort]

theorem fit?_parameterPattern_cons (c : Char) (cs : List Char) :
    parameterPattern.fit? (c :: cs) =
      if c = '<' then (after? '>' cs).map (fun rest => ([before '>' cs], rest)) else none := by
  rw [parameterPattern, Pattern.fit?, Pattern.fit?]
  exact congrArg (fun fit => if c = '<' then fit else none) (findSome?_runsAtStart '>' id cs)

theorem firstSegment?_cons_open (cs : List Char) :
    firstSegment? ('<' :: cs) = (after? '>' cs).map (fun right => ⟨[], before '>' cs, right⟩) := by
  simp only [firstSegment?, after?_cons_self, before_cons_self]
  rcases after? '>' cs with _ | right <;> rfl

theorem firstSegment?_cons_of_ne {c : Char} (hc : c ≠ '<') (cs : List Char) :
    firstSegment? (c :: cs) =
      (firstSegment? cs).map (fun s => { s with left := c :: s.left }) := by
  simp only [firstSegment?, after?_cons_of_ne hc, before_cons_of_ne hc]
  rcases after? '<' cs with _ | opened
  · rfl
  · simp only
    rcases after? '>' opened with _ | right <;> rfl

/-- The search for the pattern finds the first segment. -/
theorem search?_parameterPattern (cs : List Char) :
    parameterPattern.search? cs =
      (firstSegment? cs).map (fun s => ⟨s.left, [s.inner], s.right⟩) := by
  induction cs with
  | nil => rfl
  | cons c cs ih =>
    rw [Pattern.search?, fit?_parameterPattern_cons, ih]
    by_cases hc : c = '<'
    · subst hc
      rw [if_pos rfl, firstSegment?_cons_open]
      rcases hclose : after? '>' cs with _ | right
      · -- no bracket closes below this one, so none closes below a later one
        have hnone : firstSegment? cs = none := by
          rw [firstSegment?_eq_none_iff]
          rintro s ⟨rfl, -, -⟩
          exact not_mem_of_after?_eq_none hclose (by simp [Segment.text])
        rw [hnone]
        rfl
      · rfl
    · rw [if_neg hc, firstSegment?_cons_of_ne hc]
      rcases firstSegment? cs with _ | s <;> rfl

end SceneScript.Text

namespace SceneScript

open Text (Segment parameterPattern)

/-- A label is parted from its parameter where the search for the pattern says. It finds the first
segment and no other, wherever else brackets stand: it comes upon one if and only if a bracket
closes below the first one that opens, the text is put together from the segment again, and an empty
one gives no parameter. A text without segment is all label. -/
theorem splitParameter_by_search (cs : List Char) :
    (splitParameter cs =
      match parameterPattern.search? cs with
      | none => (cs, none)
      | some found =>
        (found.above ++ found.below, found.runs.head?.filter (fun run => !run.isEmpty))) ∧
    ((∃ s : Segment, s.IsFirstIn cs) ↔
      ∃ above below, cs = above ++ '<' :: below ∧ '<' ∉ above ∧ '>' ∈ below) ∧
    (∀ s t : Segment, s.IsFirstIn cs → t.IsFirstIn cs → s = t) ∧
    (∀ s : Segment, s.IsFirstIn cs →
      cs = s.left ++ '<' :: (s.inner ++ '>' :: s.right) ∧
      splitParameter cs = (s.left ++ s.right, if s.inner = [] then none else some s.inner)) ∧
    ((∀ s : Segment, ¬ s.IsFirstIn cs) → splitParameter cs = (cs, none)) := by
  refine ⟨?_, Text.exists_isFirstIn_iff, fun s t => Segment.IsFirstIn.unique, ?_, ?_⟩
  · rw [Text.search?_parameterPattern, splitParameter]
    rcases Text.firstSegment? cs with _ | s
    · rfl
    · rcases s with ⟨left, _ | ⟨c, inner⟩, right⟩ <;> rfl
  · intro s hs
    refine ⟨hs.text_eq, ?_⟩
    rw [splitParameter, Text.firstSegment?_eq_some_iff.mpr hs]
    simp only [List.isEmpty_iff]
  · intro hnone
    rw [splitParameter, Text.firstSegment?_eq_none_iff.mpr hnone]

/-- A text with a closing bracket above its first segment, an opening one and a line feed in it, and
another segment below it. -/
def crowdedText : List Char := ">a<b\n<c>d<e>".toList

/-- The first segment of `crowdedText`. -/
def crowdedSegment : Segment := ⟨">a".toList, "b\n<c".toList, "d<e>".toList⟩

/-- A text whose only closing bracket stands above the first opening one. -/
def unclosedText : List Char := "a>b<c<d".toList

theorem splitParameter_by_search_of_crowdedText :
    crowdedSegment.IsFirstIn crowdedText ∧
      splitParameter crowdedText = (">ad<e>".toList, some "b\n<c".toList) ∧
      splitParameter unclosedText = (unclosedText, none) := by
  have hfirst : crowdedSegment.IsFirstIn crowdedText := ⟨rfl, by decide, by decide⟩
  obtain ⟨-, -, -, hsplit, -⟩ := splitParameter_by_search crowdedText
  obtain ⟨-, -, -, -, hwhole⟩ := splitParameter_by_search unclosedText
  have hnone : ∀ s : Segment, ¬ s.IsFirstIn unclosedText :=
    Text.firstSegment?_eq_none_iff.mp (by decide)
  exact ⟨hfirst, (hsplit crowdedSegment hfirst).2, hwhole hnone⟩

end SceneScript
