import SceneScript.Script.Parse

set_option autoImplicit false
set_option relaxedAutoImplicit false

/-!
# The log of a parse

What a parse reports on its way: each block that it finishes, each reserved statement that it skips,
and the size of the story. The parse itself does not depend on its log.
-/

namespace SceneScript

/-- Something that a parse reports. -/
inductive Event
  | finishedScene (label : String)
  | finishedCharacter (name : String)
  | skipped (line : String)
  | parsed (scenes characters : Nat)
  deriving DecidableEq, Repr

/-- The wording of an event. -/
def Event.message : Event -> String
  | .finishedScene label => "Finalized scene '" ++ label ++ "'"
  | .finishedCharacter name => "Finalized character '" ++ name ++ "'"
  | .skipped line =>
    "Ignoring reserved statement: " ++ String.ofList (Text.trim line.toList)
  | .parsed scenes characters =>
    "Parsed " ++ toString scenes ++ " scenes and " ++ toString characters ++ " characters"

namespace Draft

/-- The event of finishing the open scene. -/
def sceneEvents (d : Draft) : List Event :=
  d.openScene.toList.map (fun scene => .finishedScene scene.label)

/-- The event of finishing the open character. -/
def characterEvents (d : Draft) : List Event :=
  d.openCharacter.toList.map (fun character => .finishedCharacter character.name)

/-- What applying a line reports. A scene line that fails finishes nothing. -/
def lineEvents (d : Draft) (line : String) : List Event :=
  match Keyword.ofLine? line with
  | some .character => d.characterEvents
  | some .scene => if hasInlineText line then [] else d.sceneEvents
  | some .endingScene => [.skipped line]
  | some .useEmotion => [.skipped line]
  | _ => []

/-- What a parse reports from a draft on, up to its end or its error. -/
def runEvents (d : Draft) : List (Nat × String) -> List Event
  | [] =>
    d.sceneEvents ++ d.characterEvents ++
      [.parsed d.finish.scenes.length d.finish.characters.length]
  | (_, line) :: rest =>
    d.lineEvents line ++
      match d.step line with
      | (_, some _) => []
      | (next, none) => next.runEvents rest

end Draft

/-- What the parse of a script reports. -/
def parseEvents (script : String) : List Event :=
  ({} : Draft).runEvents (scriptLines script)

end SceneScript
