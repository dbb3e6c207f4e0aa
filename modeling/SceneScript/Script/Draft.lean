import SceneScript.Script.Keyword
import SceneScript.Script.Statement

set_option autoImplicit false
set_option relaxedAutoImplicit false

/-!
# Drafts

What has been read of a script so far: at most one open scene and one open character, and those that
are finished. The two are independent of each other. A line opens, extends or finishes them; a line
that fails changes nothing, except that the line of a new character finishes the open one first.
-/

namespace SceneScript

/-- A story in the making: the open blocks and the finished ones. -/
structure Draft where
  openScene : Option Scene := none
  openCharacter : Option Character := none
  scenes : List Scene := []
  characters : List Character := []
  deriving DecidableEq, Repr, Inhabited

namespace Draft

/-- Moves the open scene, if there is one, to the end of the finished ones. -/
def finishScene (d : Draft) : Draft :=
  { d with openScene := none, scenes := d.scenes ++ d.openScene.toList }

/-- Moves the open character, if there is one, to the end of the finished ones. -/
def finishCharacter (d : Draft) : Draft :=
  { d with openCharacter := none, characters := d.characters ++ d.openCharacter.toList }

/-- A scene that is followed by a scene with the given label. A next scene of its own stays. -/
def chainTo (label : String) (scene : Scene) : Scene :=
  { scene with next := some (scene.next.getD label) }

/-- Finishes the open scene, if there is one, and opens a new one as its neighbour. -/
def startScene (d : Draft) (scene : Scene) : Draft :=
  match d.openScene with
  | none => { d with openScene := some scene }
  | some current =>
    { d with
      openScene := some { scene with previous := some current.label }
      scenes := d.scenes ++ [chainTo scene.label current] }

/-- Finishes the open character, if there is one, and opens the one that a line declares. -/
def readCharacterLine (d : Draft) (line : String) : Draft × Option ScriptError :=
  match Character.ofLine line with
  | .error e => (d.finishCharacter, some e)
  | .ok character => ({ d.finishCharacter with openCharacter := some character }, none)

/-- Opens the scene that a line declares. -/
def readSceneLine (d : Draft) (line : String) : Draft × Option ScriptError :=
  match Scene.ofLine line with
  | .error e => (d, some e)
  | .ok scene => (d.startScene scene, none)

/-- Gives the open character the emotion on a line. -/
def readEmotionLine (d : Draft) (line : String) : Draft × Option ScriptError :=
  match readEmotion line d.openCharacter with
  | .error e => (d, some e)
  | .ok (_, character) => ({ d with openCharacter := some character }, none)

/-- Gives the open scene the choice on a line. -/
def readChoiceLine (d : Draft) (line : String) : Draft × Option ScriptError :=
  match readChoice line d.openScene with
  | .error e => (d, some e)
  | .ok (_, scene) => ({ d with openScene := some scene }, none)

/-- Applies one line of a script: the draft after it, and its error if it fails. The statements of
two keywords are reserved and change nothing, like a line without statement. -/
def step (d : Draft) (line : String) : Draft × Option ScriptError :=
  match Keyword.ofLine? line with
  | some .character => d.readCharacterLine line
  | some .emotion => d.readEmotionLine line
  | some .scene => d.readSceneLine line
  | some .choice => d.readChoiceLine line
  | some .endingScene => (d, none)
  | some .useEmotion => (d, none)
  | none => (d, none)

/-- Applies numbered lines up to the first that fails, whose error gets the line's number. -/
def run (d : Draft) : List (Nat × String) -> Draft × Option ScriptError
  | [] => (d, none)
  | (n, line) :: rest =>
    match d.step line with
    | (next, some e) => (next, some (e.atLine n))
    | (next, none) => next.run rest

/-- Finishes whatever is open. -/
def finish (d : Draft) : Draft :=
  d.finishScene.finishCharacter

end Draft

end SceneScript
