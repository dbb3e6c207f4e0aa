import SceneScript.EmotionTable

set_option autoImplicit false
set_option relaxedAutoImplicit false

/-!
# Stories

What a script describes: scenes, which form a graph through their choices and their neighbours, and
the characters who speak in them.
-/

namespace SceneScript

/-- A spoken line: who says it, with which emotion, and the words. -/
structure Dialogue where
  character : String
  emotion : String
  text : String
  deriving DecidableEq, Repr, Inhabited

/-- A labelled edge from the scene that owns it to a target scene. -/
structure Choice where
  label : String
  target : String
  deriving DecidableEq, Repr, Inhabited

/-- A node of the scene graph. A scene that never had a choice has no list of choices, which is not
the same as an empty list. -/
structure Scene where
  label : String
  condition : Option String := none
  next : Option String := none
  previous : Option String := none
  isEnding : Bool := false
  dialogues : List Dialogue := []
  choices : Option (List Choice) := none
  deriving DecidableEq, Repr, Inhabited

/-- The choices of a scene as a list, whether it has one or not. -/
def Scene.choiceList (s : Scene) : List Choice :=
  s.choices.getD []

/-- A speaker with the pictures of their emotions. -/
structure Character where
  name : String
  emotions : EmotionTable := ∅
  deriving DecidableEq, Repr, Inhabited

/-- The scenes and characters of a script, in the order in which they are declared. -/
structure Story where
  scenes : List Scene := []
  characters : List Character := []
  deriving DecidableEq, Repr, Inhabited

namespace Story

/-- The first scene with a label. -/
def scene? (s : Story) (label : String) : Option Scene :=
  s.scenes.find? (fun scene => scene.label == label)

/-- The first character with a name. -/
def character? (s : Story) (name : String) : Option Character :=
  s.characters.find? (fun character => character.name == name)

end Story

end SceneScript
