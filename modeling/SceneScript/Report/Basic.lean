import SceneScript.Report.Timestamp
import SceneScript.Story

set_option autoImplicit false
set_option relaxedAutoImplicit false

/-!
# Reports

What a report says about a story: its size, where it starts and ends, its scenes and characters row
by row, and the choices that lead to a scene nobody declares. A dangling choice is worth a remark
and no error.
-/

namespace SceneScript

/-- A choice whose target is the label of no scene, with the label of the scene that has it. -/
structure DanglingChoice where
  scene : String
  choice : String
  target : String
  deriving DecidableEq, Repr, Inhabited

/-- A choice in the row of its scene. -/
structure ChoiceRow where
  label : String
  target : String
  dangling : Bool
  deriving DecidableEq, Repr, Inhabited

/-- A scene in a report. -/
structure SceneRow where
  label : String
  condition : Option String
  previous : Option String
  next : Option String
  isEnding : Bool
  dialogueCount : Nat
  choices : List ChoiceRow
  deriving DecidableEq, Repr, Inhabited

/-- A character in a report, with the emotions in the order of their names. -/
structure CharacterRow where
  name : String
  emotions : List (String × String)
  deriving DecidableEq, Repr, Inhabited

/-- Everything that a report shows. -/
structure Report where
  title : Option String
  generated : String
  sceneCount : Nat
  characterCount : Nat
  choiceCount : Nat
  start : Option String
  endings : List String
  dangling : List DanglingChoice
  scenes : List SceneRow
  characters : List CharacterRow
  deriving DecidableEq, Repr, Inhabited

/-- The choices of a story whose target is the label of none of its scenes, in the order of scenes
and choices. -/
def Story.danglingChoices (s : Story) : List DanglingChoice :=
  let labels := s.scenes.map (fun scene => scene.label)
  s.scenes.flatMap (fun scene =>
    (scene.choiceList.filter (fun choice => !labels.contains choice.target)).map
      (fun choice => ⟨scene.label, choice.label, choice.target⟩))

/-- The row of a scene, where the targets that lead nowhere are given. -/
def SceneRow.ofScene (lost : List String) (s : Scene) : SceneRow where
  label := s.label
  condition := s.condition
  previous := s.previous
  next := s.next
  isEnding := s.isEnding
  dialogueCount := s.dialogues.length
  choices := s.choiceList.map (fun c => ⟨c.label, c.target, lost.contains c.target⟩)

/-- The entries of an emotion table in the order of their names, by code points. -/
def EmotionTable.sorted (t : EmotionTable) : List (String × String) :=
  t.entries.mergeSort (fun a b => decide (a.1 <= b.1))

/-- The row of a character. -/
def CharacterRow.ofCharacter (c : Character) : CharacterRow where
  name := c.name
  emotions := c.emotions.sorted

namespace Report

/-- The title of a report that is given none. -/
def defaultTitle : String := "Masoria Script"

/-- The report on a story. -/
def ofStory (s : Story) (title : Option String) (now : Timestamp) : Report :=
  let dangling := s.danglingChoices
  let lost := dangling.map (fun d => d.target)
  { title
    generated := now.text
    sceneCount := s.scenes.length
    characterCount := s.characters.length
    choiceCount := (s.scenes.flatMap Scene.choiceList).length
    start := s.scenes.head?.map (fun scene => scene.label)
    endings := (s.scenes.filter (fun scene => scene.isEnding)).map (fun scene => scene.label)
    dangling
    scenes := s.scenes.map (SceneRow.ofScene lost)
    characters := s.characters.map CharacterRow.ofCharacter }

end Report

end SceneScript
