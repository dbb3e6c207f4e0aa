import SceneScript.Story

set_option autoImplicit false
set_option relaxedAutoImplicit false

/-!
# Back references

A scene that some choice leads to has as its previous scene the one with that choice, whatever the
order of declaration had put there. Of several such scenes the first in the list counts.
-/

namespace SceneScript

/-- Whether a scene has a choice that leads to a label. -/
def Scene.leadsTo (s : Scene) (label : String) : Bool :=
  s.choiceList.any (fun choice => choice.target == label)

/-- The label of the first scene with a choice that leads to a label. -/
def parent? (scenes : List Scene) (label : String) : Option String :=
  (scenes.find? (fun s => s.leadsTo label)).map (fun s => s.label)

/-- Whether a scene takes its previous scene from a choice. -/
def isChosen (scenes : List Scene) (s : Scene) : Bool :=
  (parent? scenes s.label).isSome

/-- A scene with its previous scene taken from the choices that lead to it, if there are any. -/
def linkBack (scenes : List Scene) (s : Scene) : Scene :=
  match parent? scenes s.label with
  | none => s
  | some label => { s with previous := some label }

/-- All scenes with their previous scenes taken from the choices. -/
def linkAll (scenes : List Scene) : List Scene :=
  scenes.map (linkBack scenes)

theorem label_linkBack (scenes : List Scene) (s : Scene) :
    (linkBack scenes s).label = s.label := by
  rw [linkBack]
  split <;> rfl

theorem leadsTo_linkBack (scenes : List Scene) (s : Scene) (label : String) :
    (linkBack scenes s).leadsTo label = s.leadsTo label := by
  rw [linkBack]
  split <;> rfl

/-- A scene keeps its parent when the previous scenes are taken from the choices. -/
theorem parent?_linkAll (scenes : List Scene) (label : String) :
    parent? (linkAll scenes) label = parent? scenes label := by
  have hlead : (fun s : Scene => s.leadsTo label) ∘ linkBack scenes =
      fun s => s.leadsTo label := by
    funext s
    exact leadsTo_linkBack scenes s label
  have hlabel : (fun s : Scene => s.label) ∘ linkBack scenes = fun s => s.label := by
    funext s
    exact label_linkBack scenes s
  rw [parent?, linkAll, List.find?_map, Option.map_map, hlead, hlabel, parent?]

end SceneScript
