import SceneScript.Proofs.Script.Reading
import SceneScript.Proofs.Script.Step
import SceneScript.Proofs.Text.Words

set_option autoImplicit false
set_option relaxedAutoImplicit false

/-!
# Conditions of scene lines

Text after the colon of a declaration is looked for around the first bracketed segment of the line,
while the condition is looked for in the second word alone. Both readings find the same segment if
it stands in the second word as a whole, and a segment that starts there and holds a blank is no
condition. Main statement: `condition_in_second_word`.
-/

namespace SceneScript

/-- A bracket that is not closed is a part of its label. -/
theorem splitParameter_unclosed {left inner : List Char} (hleft : '<' ∉ left)
    (hinner : '>' ∉ inner) :
    splitParameter (left ++ '<' :: inner) = (left ++ '<' :: inner, none) := by
  rw [splitParameter, Text.firstSegment?, Text.after?_append hleft]
  simp only [Text.after?_of_not_mem hinner]

theorem map_ofList_eq_nonEmpty? (cs : List Char) :
    (if cs.isEmpty then none else some cs).map String.ofList = nonEmpty? cs := by
  rw [nonEmpty?]
  split <;> rfl

/-- Let the first segment of a scene line start in the second word. If it holds no blank, it is the
condition of the scene, the label is made of what stands beside it in the second word, and the next
scene of words below it. If it holds a blank, it is cut by the end of the word: the scene has no
condition, and its label is the whole second word. -/
theorem condition_in_second_word {line : String} {scene : Scene} {s : Text.Segment}
    (hread : Scene.ofLine line = .ok scene) (hfirst : Text.firstSegment? line.toList = some s)
    (hopens : s.OpensInWord 1) :
    ((∀ c ∈ s.inner, Text.isBlank c = false) →
      scene.condition = nonEmpty? s.inner ∧
      ∃ above left right below, s.left = above ++ left ∧ s.right = right ++ below ∧
        Text.word 1 line.toList = left ++ '<' :: (s.inner ++ '>' :: right) ∧
        scene.label = String.ofList (dropColons (left ++ right)) ∧
        scene.next = nonEmpty? (dropColons (Text.word 1 below))) ∧
    ((∃ c ∈ s.inner, Text.isBlank c = true) →
      scene.condition = none ∧
      ∃ above left start rest, s.left = above ++ left ∧ s.inner = start ++ rest ∧
        Text.word 1 line.toList = left ++ '<' :: start ∧
        scene.label = String.ofList (dropColons (left ++ '<' :: start))) := by
  obtain ⟨-, rfl⟩ := eq_of_sceneOfLine hread
  obtain ⟨htext, hopen, hclose⟩ := Text.firstSegment?_spec hfirst
  constructor
  · intro hsolid
    obtain ⟨above, left, right, below, hleft, hright, hword, hrest⟩ :=
      Text.Segment.exists_word_of_solid hopens hsolid
    rw [← htext] at hword hrest
    have hparts : splitParameter (left ++ '<' :: (s.inner ++ '>' :: right)) = _ :=
      splitParameter_text (s := ⟨left, s.inner, right⟩)
        (fun hmem => hopen (hleft ▸ List.mem_append_right above hmem)) hclose
    rw [hword, hparts]
    refine ⟨map_ofList_eq_nonEmpty? s.inner, above, left, right, below, hleft, hright, rfl, rfl, ?_⟩
    rw [hrest 1]
  · intro hblank
    obtain ⟨above, left, start, rest, hleft, hinner, hword⟩ :=
      Text.Segment.exists_word_of_blank hopens hblank
    rw [← htext] at hword
    have hparts := splitParameter_unclosed
      (fun hmem => hopen (hleft ▸ List.mem_append_right above hmem))
      (fun hmem => hclose (hinner ▸ List.mem_append_left rest hmem))
    rw [hword, hparts]
    exact ⟨rfl, above, left, start, rest, hleft, hinner, rfl, rfl⟩

/-- A scene line with a colon and a bracket in its segment and a bracket above it. -/
def bracketedLine : String := "scene\t>a<k:<l>b -> c:"

/-- The first segment of `bracketedLine`. -/
def bracketedSegment : Text.Segment := ⟨"scene\t>a".toList, "k:<l".toList, "b -> c:".toList⟩

/-- A scene line whose first segment goes on over three words. -/
def partedLine : String := "scene a<b c d>:"

/-- The first segment of `partedLine`. -/
def partedSegment : Text.Segment := ⟨"scene a".toList, "b c d".toList, ":".toList⟩

theorem sceneOfLine_partedLine :
    Scene.ofLine partedLine = .ok { label := "a<b", next := some "d>" } := by
  decide +kernel

theorem condition_in_bracketedLine :
    (∃ scene, Scene.ofLine bracketedLine = .ok scene ∧
      Text.firstSegment? bracketedLine.toList = some bracketedSegment ∧
      bracketedSegment.OpensInWord 1 ∧ scene.condition = nonEmpty? bracketedSegment.inner ∧
      scene.label = ">ab" ∧ scene.next = some "c") ∧
    ∃ scene, Scene.ofLine partedLine = .ok scene ∧
      Text.firstSegment? partedLine.toList = some partedSegment ∧ partedSegment.OpensInWord 1 ∧
      scene.condition = none := by
  have hread : Scene.ofLine bracketedLine =
      .ok { label := ">ab", condition := some "k:<l", next := some "c" } := by
    decide +kernel
  have hbracketed : Text.firstSegment? bracketedLine.toList = some bracketedSegment := by decide
  have hparted : Text.firstSegment? partedLine.toList = some partedSegment := by decide
  obtain ⟨hwhole, -⟩ := condition_in_second_word hread hbracketed (by decide)
  obtain ⟨-, hcut⟩ := condition_in_second_word sceneOfLine_partedLine hparted (by decide)
  exact ⟨⟨_, hread, hbracketed, by decide, (hwhole (solid_of_all rfl)).1, rfl, rfl⟩,
    ⟨_, sceneOfLine_partedLine, hparted, by decide, (hcut ⟨' ', by decide⟩).1⟩⟩

/-- A segment with blanks is no condition, and its pieces become the label and the next scene. -/
theorem partedLine_scatters_segment :
    ∃ scene, Scene.ofLine partedLine = .ok scene ∧
      Text.firstSegment? partedLine.toList = some partedSegment ∧ partedSegment.OpensInWord 1 ∧
      scene.condition ≠ nonEmpty? partedSegment.inner ∧ scene.label = "a<b" ∧
      scene.next = some "d>" :=
  ⟨_, sceneOfLine_partedLine, by decide, by decide, by decide, rfl, rfl⟩

end SceneScript
