import SceneScript.Json.Basic
import SceneScript.Story

set_option autoImplicit false
set_option relaxedAutoImplicit false

/-!
# Stories as JSON

The fields under which a story is exchanged, and their order. A story is written as a value and read
back from one; the reader finds fields by name, in any order.
-/

namespace SceneScript

/-- A text, or null for none. -/
def Json.ofText? : Option String -> Json
  | none => .null
  | some s => .text s

/-- A spoken line as an object. -/
def Dialogue.toJson (d : Dialogue) : Json :=
  .object [("character", .text d.character), ("emotion", .text d.emotion), ("text", .text d.text)]

/-- A choice as an object. -/
def Choice.toJson (c : Choice) : Json :=
  .object [("label", .text c.label), ("target_scene", .text c.target)]

/-- A scene as an object. A scene without a list of choices has null in its place. -/
def Scene.toJson (s : Scene) : Json :=
  .object
    [("label", .text s.label),
      ("condition", .ofText? s.condition),
      ("next_scene", .ofText? s.next),
      ("previous_scene", .ofText? s.previous),
      ("is_ending_scene", .bool s.isEnding),
      ("dialogues", .list (s.dialogues.map Dialogue.toJson)),
      ("choices",
        match s.choices with
        | none => .null
        | some choices => .list (choices.map Choice.toJson))]

/-- An emotion table as an object, with a field for each name in the table's order. -/
def EmotionTable.toJson (t : EmotionTable) : Json :=
  .object (t.entries.map (fun entry => (entry.1, .text entry.2)))

/-- A character as an object. -/
def Character.toJson (c : Character) : Json :=
  .object [("name", .text c.name), ("emotions", c.emotions.toJson)]

/-- A story as an object. -/
def Story.toJson (s : Story) : Json :=
  .object
    [("scenes", .list (s.scenes.map Scene.toJson)),
      ("characters", .list (s.characters.map Character.toJson))]

/-- The value of the first field with a name. -/
def Json.field? (name : String) : Json -> Option Json
  | .object fields => fields.lookup name
  | _ => none

/-- A value that is a text. -/
def Json.text? : Json -> Option String
  | .text s => some s
  | _ => none

/-- A value that is a text or null. -/
def Json.nullableText? : Json -> Option (Option String)
  | .null => some none
  | .text s => some (some s)
  | _ => none

/-- A value that is a truth value. -/
def Json.bool? : Json -> Option Bool
  | .bool b => some b
  | _ => none

/-- A value that is a list, with each item read. -/
def Json.listOf? {α : Type} (item? : Json -> Option α) : Json -> Option (List α)
  | .list items => items.mapM item?
  | _ => none

/-- Reads a spoken line from an object. -/
def Dialogue.ofJson? (j : Json) : Option Dialogue := do
  let character ← (← j.field? "character").text?
  let emotion ← (← j.field? "emotion").text?
  let text ← (← j.field? "text").text?
  return { character, emotion, text }

/-- Reads a choice from an object. -/
def Choice.ofJson? (j : Json) : Option Choice := do
  let label ← (← j.field? "label").text?
  let target ← (← j.field? "target_scene").text?
  return { label, target }

/-- Reads the choices of a scene, which may be null. -/
def Choice.listOfJson? : Json -> Option (Option (List Choice))
  | .null => some none
  | j => (j.listOf? Choice.ofJson?).map some

/-- Reads a scene from an object. -/
def Scene.ofJson? (j : Json) : Option Scene := do
  let label ← (← j.field? "label").text?
  let condition ← (← j.field? "condition").nullableText?
  let next ← (← j.field? "next_scene").nullableText?
  let previous ← (← j.field? "previous_scene").nullableText?
  let isEnding ← (← j.field? "is_ending_scene").bool?
  let dialogues ← (← j.field? "dialogues").listOf? Dialogue.ofJson?
  let choices ← Choice.listOfJson? (← j.field? "choices")
  return { label, condition, next, previous, isEnding, dialogues, choices }

/-- A field whose value is a text. -/
def Json.textField? (field : String × Json) : Option (String × String) :=
  field.2.text?.map (fun path => (field.1, path))

/-- Reads an emotion table from an object, in the order of its fields. -/
def EmotionTable.ofJson? : Json -> Option EmotionTable
  | .object fields => (fields.mapM Json.textField?).map EmotionTable.ofList
  | _ => none

/-- Reads a character from an object. -/
def Character.ofJson? (j : Json) : Option Character := do
  let name ← (← j.field? "name").text?
  let emotions ← EmotionTable.ofJson? (← j.field? "emotions")
  return { name, emotions }

/-- Reads a story from an object. -/
def Story.ofJson? (j : Json) : Option Story := do
  let scenes ← (← j.field? "scenes").listOf? Scene.ofJson?
  let characters ← (← j.field? "characters").listOf? Character.ofJson?
  return { scenes, characters }

end SceneScript
