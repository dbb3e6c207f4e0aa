import SceneScript.BackReference
import SceneScript.Script.Draft
import SceneScript.Text.Line

set_option autoImplicit false
set_option relaxedAutoImplicit false

/-!
# Parsing a script

A script is read line by line into a story. The first line that fails ends the parse with its error,
and no story is given.
-/

namespace SceneScript

/-- The lines of a script that are not blank, with their numbers. -/
def scriptLines (script : String) : List (Nat × String) :=
  (Text.numberedLines script.toList).map (fun line => (line.1, String.ofList line.2))

/-- The story of a draft in which nothing is open: its finished blocks, with the previous scenes
taken from the choices. -/
def Draft.story (d : Draft) : Story :=
  { scenes := linkAll d.scenes, characters := d.characters }

/-- Reads a script into the story that it describes, or gives the error of its first bad line. -/
def parse (script : String) : Except ScriptError Story :=
  match ({} : Draft).run (scriptLines script) with
  | (_, some e) => .error e
  | (d, none) => .ok d.finish.story

end SceneScript
