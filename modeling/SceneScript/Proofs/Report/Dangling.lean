import Mathlib.Data.List.Basic
import SceneScript.Report.Basic

set_option autoImplicit false
set_option relaxedAutoImplicit false

/-!
# Dangling choices in a report

Which choices dangle is said in three ways: by the list of dangling choices, which compares targets
with labels, by the flags in the rows, which look a target up in that list, and by the search for a
scene with the target for its label. Main statement: `dangling_views_agree`.
-/

namespace SceneScript

/-- The choices that are flagged in the rows of a report, in the order of rows and choices. -/
def Report.flagged (r : Report) : List DanglingChoice :=
  r.scenes.flatMap (fun row =>
    (row.choices.filter ChoiceRow.dangling).map (fun c => ⟨row.label, c.label, c.target⟩))

theorem map_label_ofStory (s : Story) (title : Option String) (now : Timestamp) :
    (Report.ofStory s title now).scenes.map SceneRow.label = s.scenes.map Scene.label := by
  rw [Report.ofStory, List.map_map]
  rfl

section Targets

variable {story : Story} {s : Scene} {c : Choice}

/-- A target is listed as one that leads nowhere if and only if there is no such scene. -/
theorem contains_lost_iff (hs : s ∈ story.scenes) (hc : c ∈ s.choiceList) :
    (story.danglingChoices.map DanglingChoice.target).contains c.target = true ↔
      c.target ∉ story.scenes.map Scene.label := by
  rw [List.contains_iff_mem, List.mem_map]
  constructor
  · rintro ⟨d, hd, htarget⟩
    obtain ⟨s', -, hd⟩ := List.mem_flatMap.mp hd
    obtain ⟨c', hc', rfl⟩ := List.mem_map.mp hd
    rw [← htarget]
    simpa using (List.mem_filter.mp hc').2
  · intro hlost
    refine ⟨⟨s.label, c.label, c.target⟩, List.mem_flatMap.mpr ⟨s, hs, ?_⟩, rfl⟩
    refine List.mem_map.mpr ⟨c, List.mem_filter.mpr ⟨hc, ?_⟩, rfl⟩
    simpa using hlost

theorem scene?_eq_none_iff (story : Story) (label : String) :
    story.scene? label = none ↔ label ∉ story.scenes.map Scene.label := by
  rw [Story.scene?, List.find?_eq_none, List.mem_map]
  simp only [beq_iff_eq, not_exists, not_and]

/-- The flag of a choice says that the search for its target finds no scene. -/
theorem contains_lost_eq_isNone (hs : s ∈ story.scenes) (hc : c ∈ s.choiceList) :
    (story.danglingChoices.map DanglingChoice.target).contains c.target =
      (story.scene? c.target).isNone := by
  rw [Bool.eq_iff_iff, contains_lost_iff hs hc, Option.isNone_iff_eq_none, scene?_eq_none_iff]

/-- A choice is listed as dangling if and only if the search for its target finds no scene. -/
theorem danglingChoices_eq_flatMap (story : Story) :
    story.danglingChoices = story.scenes.flatMap (fun scene =>
      (scene.choiceList.filter (fun c => (story.scene? c.target).isNone)).map
        (fun c => ⟨scene.label, c.label, c.target⟩)) := by
  have hlost : ∀ c : Choice, (!(story.scenes.map (fun scene => scene.label)).contains c.target) =
      (story.scene? c.target).isNone := by
    intro c
    rw [Bool.eq_iff_iff, Option.isNone_iff_eq_none, scene?_eq_none_iff]
    simp
  simp only [Story.danglingChoices, hlost]

end Targets

/-- The rows of a report have all choices of the scenes, and flag those whose target is the label of
no scene. -/
theorem choices_ofStory (s : Story) (title : Option String) (now : Timestamp) :
    (Report.ofStory s title now).scenes.map (fun row => (row.label, row.choices)) =
      s.scenes.map (fun scene => (scene.label, scene.choiceList.map
        (fun c => ⟨c.label, c.target, (s.scene? c.target).isNone⟩))) := by
  rw [Report.ofStory, List.map_map]
  apply List.map_congr_left
  intro scene hscene
  apply congrArg (Prod.mk scene.label)
  apply List.map_congr_left
  intro c hc
  exact congrArg (ChoiceRow.mk c.label c.target) (contains_lost_eq_isNone hscene hc)

/-- What is flagged can be read off the labels of the rows and their choices. -/
theorem flagged_eq_flatMap (r : Report) :
    r.flagged = (r.scenes.map (fun row => (row.label, row.choices))).flatMap (fun row =>
      (row.2.filter ChoiceRow.dangling).map (fun c => ⟨row.1, c.label, c.target⟩)) := by
  rw [List.flatMap_map]
  rfl

theorem flagged_ofStory (s : Story) (title : Option String) (now : Timestamp) :
    (Report.ofStory s title now).flagged = s.danglingChoices := by
  rw [flagged_eq_flatMap, choices_ofStory, List.flatMap_map, danglingChoices_eq_flatMap]
  apply List.flatMap_congr
  intro scene _
  rw [List.filter_map, List.map_map]
  rfl

/-- Each choice has an entry in its row. -/
theorem choiceCount_ofStory (s : Story) (title : Option String) (now : Timestamp) :
    (Report.ofStory s title now).choiceCount =
      ((Report.ofStory s title now).scenes.flatMap SceneRow.choices).length := by
  simp only [Report.ofStory, SceneRow.ofScene, List.flatMap_map, List.length_flatMap,
    List.length_map]

/-- The choices that the rows of a report flag are those of the list of dangling choices, one by
one. The rows have all choices of the story in their order, each of them flagged if and only if no
scene is found for its target, and the report counts them all. This holds of any story, also where
scenes share a label. -/
theorem dangling_views_agree (s : Story) (title : Option String) (now : Timestamp) :
    (Report.ofStory s title now).flagged = s.danglingChoices ∧
      (Report.ofStory s title now).scenes.map (fun row => (row.label, row.choices)) =
        s.scenes.map (fun scene => (scene.label, scene.choiceList.map
          (fun c => ⟨c.label, c.target, (s.scene? c.target).isNone⟩))) ∧
      (Report.ofStory s title now).choiceCount =
        ((Report.ofStory s title now).scenes.flatMap SceneRow.choices).length :=
  ⟨flagged_ofStory s title now, choices_ofStory s title now, choiceCount_ofStory s title now⟩

end SceneScript
