import Mathlib.Data.List.Forall2
import SceneScript.BackReference

set_option autoImplicit false
set_option relaxedAutoImplicit false

/-!
# Parents of scenes

The first scene with a choice that leads to a label is found in two ways: by searching the scenes
for each label, or by going once through all choices and noting each target that is new. Main
statement: `linkAll_by_first_parent`, which says what the search for parents makes of each scene,
and of what it does not depend.
-/

namespace SceneScript

/-- A scene has a choice that leads to a label, and no scene above it has one. -/
def FirstParent (scenes : List Scene) (label : String) (p : Scene) : Prop :=
  ∃ above below, scenes = above ++ p :: below ∧ (∃ c ∈ p.choiceList, c.target = label) ∧
    ∀ q ∈ above, ∀ c ∈ q.choiceList, c.target ≠ label

/-- What becomes of a scene when previous scenes are taken from the choices: a copy that names the
first parent, or the scene as it is if no choice leads to it. -/
inductive LinkedFrom (scenes : List Scene) (s : Scene) : Scene → Prop
  | copied {p : Scene} (first : FirstParent scenes s.label p) (chosen : isChosen scenes s = true) :
      LinkedFrom scenes s { s with previous := some p.label }
  | kept (unreached : ∀ p ∈ scenes, ∀ c ∈ p.choiceList, c.target ≠ s.label)
      (unchosen : isChosen scenes s = false) : LinkedFrom scenes s s

/-- Scenes that differ in the order of their choices at most. -/
structure Scene.Reordered (s t : Scene) : Prop where
  choices : Option.Rel List.Perm s.choices t.choices
  others : { t with choices := s.choices } = s

/-! Parents by search -/

section Search

variable {scenes : List Scene} {s : Scene} {label : String}

theorem leadsTo_iff : s.leadsTo label = true ↔ ∃ c ∈ s.choiceList, c.target = label := by
  simp [Scene.leadsTo]

theorem exists_firstParent {parent : String} (h : parent? scenes label = some parent) :
    ∃ p, FirstParent scenes label p ∧ p.label = parent := by
  obtain ⟨p, hfind, rfl⟩ := Option.map_eq_some_iff.mp h
  obtain ⟨hlead, above, below, hscenes, habove⟩ := List.find?_eq_some_iff_append.mp hfind
  refine ⟨p, ⟨above, below, hscenes, leadsTo_iff.mp hlead, ?_⟩, rfl⟩
  intro q hq c hc htarget
  have hnot := habove q hq
  rw [leadsTo_iff.mpr ⟨c, hc, htarget⟩] at hnot
  cases hnot

theorem parent?_eq_none_iff :
    parent? scenes label = none ↔ ∀ p ∈ scenes, ∀ c ∈ p.choiceList, c.target ≠ label := by
  rw [parent?, Option.map_eq_none_iff, List.find?_eq_none]
  simp only [leadsTo_iff, not_exists, not_and]

theorem linkedFrom_linkBack (scenes : List Scene) (s : Scene) :
    LinkedFrom scenes s (linkBack scenes s) := by
  rw [linkBack]
  split
  · rename_i hnone
    exact .kept (parent?_eq_none_iff.mp hnone) (by rw [isChosen, hnone]; rfl)
  · rename_i parent hsome
    obtain ⟨p, hfirst, rfl⟩ := exists_firstParent hsome
    exact .copied hfirst (by rw [isChosen, hsome]; rfl)

end Search

/-! Parents in one pass -/

/-- Notes the parent of a label, unless the label has one. -/
def noteParent (parents : List (String × String)) (label parent : String) :
    List (String × String) :=
  if (parents.lookup label).isSome then parents else parents ++ [(label, parent)]

/-- Notes a scene as the parent of each scene that its choices lead to. -/
def noteChoices (parents : List (String × String)) (s : Scene) : List (String × String) :=
  s.choiceList.foldl (fun noted c => noteParent noted c.target s.label) parents

/-- The parents that all choices give, taken in the order of scenes and choices. -/
def notedParents (scenes : List Scene) : List (String × String) :=
  scenes.foldl noteChoices []

/-- The copy of a scene that names its noted parent, if it has one. -/
def linkedCopy? (parents : List (String × String)) (s : Scene) : Option Scene :=
  (parents.lookup s.label).map (fun parent => { s with previous := some parent })

section Pass

variable (parents : List (String × String)) (s : Scene) (label : String)

theorem lookup_noteParent (target parent : String) :
    (noteParent parents target parent).lookup label =
      (parents.lookup label).or (if target = label then some parent else none) := by
  rw [noteParent]
  split
  · rename_i hnoted
    by_cases h : target = label
    · obtain ⟨old, hold⟩ := Option.isSome_iff_exists.mp (h ▸ hnoted)
      rw [hold, Option.some_or]
    · rw [if_neg h, Option.or_none]
  · rw [List.lookup_append, lookup_entry_cons, List.lookup_nil]
    congr 1
    simp only [eq_comm]

/-- The first choice that leads to a label decides, and all choices of a scene give its label. -/
theorem lookup_noteChoices :
    (noteChoices parents s).lookup label =
      (parents.lookup label).or (if s.leadsTo label then some s.label else none) := by
  rw [noteChoices, Scene.leadsTo]
  induction s.choiceList generalizing parents with
  | nil => simp
  | cons c cs ih =>
    rw [List.foldl_cons, ih, lookup_noteParent, Option.or_assoc, List.any_cons]
    by_cases h : c.target = label
    · simp [h]
    · simp [h]

/-- The scenes noted before count first, and then the first scene with a choice that leads to the
label. -/
theorem lookup_foldl_noteChoices (scenes : List Scene) :
    (scenes.foldl noteChoices parents).lookup label =
      (parents.lookup label).or (parent? scenes label) := by
  induction scenes generalizing parents with
  | nil => simp [parent?]
  | cons s rest ih =>
    have hcons : parent? (s :: rest) label =
        (if s.leadsTo label then some s.label else none).or (parent? rest label) := by
      rw [parent?, List.find?_cons]
      by_cases h : s.leadsTo label = true
      · simp [h]
      · rw [Bool.not_eq_true] at h
        simp [h, parent?]
    rw [List.foldl_cons, ih, lookup_noteChoices, Option.or_assoc, hcons]

theorem lookup_notedParents (scenes : List Scene) :
    (notedParents scenes).lookup label = parent? scenes label := by
  rw [notedParents, lookup_foldl_noteChoices]
  rfl

theorem linkBack_eq_linkedCopy? (scenes : List Scene) :
    linkBack scenes s = (linkedCopy? (notedParents scenes) s).getD s := by
  rw [linkBack, linkedCopy?, lookup_notedParents]
  split
  · rename_i hnone
    rw [hnone]
    rfl
  · rename_i parent hsome
    rw [hsome]
    rfl

theorem isSome_linkedCopy? (scenes : List Scene) :
    (linkedCopy? (notedParents scenes) s).isSome = isChosen scenes s := by
  rw [linkedCopy?, lookup_notedParents, Option.isSome_map, isChosen]

end Pass

/-! Order of choices -/

section Order

variable {s t : Scene} {scenes others : List Scene}

theorem Scene.Reordered.label (h : s.Reordered t) : t.label = s.label :=
  (congrArg Scene.label h.others :)

theorem Scene.Reordered.previous (h : s.Reordered t) : t.previous = s.previous :=
  (congrArg Scene.previous h.others :)

theorem Scene.Reordered.perm (h : s.Reordered t) : s.choiceList.Perm t.choiceList := by
  have hchoices := h.choices
  rw [Scene.choiceList, Scene.choiceList]
  cases hs : s.choices with
  | none =>
    rw [hs] at hchoices
    cases ht : t.choices with
    | none => exact .refl _
    | some ds =>
      rw [ht] at hchoices
      cases hchoices
  | some cs =>
    rw [hs] at hchoices
    cases ht : t.choices with
    | none =>
      rw [ht] at hchoices
      cases hchoices
    | some ds =>
      rw [ht] at hchoices
      cases hchoices with
      | some hperm => exact hperm

theorem Scene.Reordered.leadsTo (h : s.Reordered t) (label : String) :
    t.leadsTo label = s.leadsTo label := by
  rw [Bool.eq_iff_iff, leadsTo_iff, leadsTo_iff]
  simp only [h.perm.mem_iff]

theorem parent?_reordered (h : List.Forall₂ Scene.Reordered scenes others) (label : String) :
    parent? others label = parent? scenes label := by
  induction h with
  | nil => rfl
  | @cons s t scenes others hst hrest ih =>
    rw [parent?, parent?] at ih ⊢
    rw [List.find?_cons, List.find?_cons, hst.leadsTo]
    split
    · simp [hst.label]
    · exact ih

theorem previous_linkBack_reordered (h : List.Forall₂ Scene.Reordered scenes others)
    (hst : s.Reordered t) : (linkBack others t).previous = (linkBack scenes s).previous := by
  rw [linkBack, linkBack, hst.label, parent?_reordered h]
  split
  · exact hst.previous
  · rfl

end Order

/-- The search for parents gives each scene, in its place, the first scene in the list with a choice
that leads to it as its previous one, in a copy that is otherwise the same, and keeps a scene as it
is if no choice leads to it. One pass over all choices finds the same parents. The order of the
choices in a scene does not count, and a second search changes nothing. -/
theorem linkAll_by_first_parent (scenes : List Scene) :
    List.Forall₂ (LinkedFrom scenes) scenes (linkAll scenes) ∧
    (linkAll scenes = scenes.map (fun s => (linkedCopy? (notedParents scenes) s).getD s) ∧
      ∀ s, (linkedCopy? (notedParents scenes) s).isSome = isChosen scenes s) ∧
    (∀ others, List.Forall₂ Scene.Reordered scenes others →
      (linkAll others).map Scene.previous = (linkAll scenes).map Scene.previous) ∧
    linkAll (linkAll scenes) = linkAll scenes := by
  refine ⟨?_, ⟨?_, fun s => isSome_linkedCopy? s scenes⟩, ?_, ?_⟩
  · rw [linkAll, List.forall₂_map_right_iff, List.forall₂_same]
    intro s _
    exact linkedFrom_linkBack scenes s
  · exact List.map_congr_left (fun s _ => linkBack_eq_linkedCopy? s scenes)
  · intro others h
    rw [linkAll, linkAll, List.map_map, List.map_map]
    symm
    rw [← List.forall₂_eq_eq_eq, List.forall₂_map_left_iff, List.forall₂_map_right_iff]
    exact h.imp (fun s t hst => (previous_linkBack_reordered h hst).symm)
  · -- the parents of the result are those of the scenes, so each scene gets the same one again
    have hsame : ∀ s, linkBack (linkAll scenes) (linkBack scenes s) = linkBack scenes s := by
      intro s
      rw [linkBack, parent?_linkAll, label_linkBack]
      split
      · rfl
      · rename_i parent hparent
        rw [linkBack, hparent]
    show (scenes.map (linkBack scenes)).map (linkBack (linkAll scenes)) = linkAll scenes
    rw [List.map_map]
    exact List.map_congr_left (fun s _ => hsame s)

/-- Scenes with a label that is given twice, a scene that leads to itself and one to nowhere. -/
def tangledScenes : List Scene :=
  [{ label := "a", previous := some "z", choices := some [⟨"On", "b"⟩, ⟨"Stay", "a"⟩] },
    { label := "b", choices := some [⟨"Back", "a"⟩] },
    { label := "b", previous := some "z", choices := some [] },
    { label := "c", previous := some "z" }]

theorem linkAll_tangledScenes :
    (linkAll tangledScenes).map Scene.previous = [some "a", some "a", some "a", some "z"] ∧
      ∃ others, List.Forall₂ Scene.Reordered tangledScenes others ∧ others ≠ tangledScenes ∧
        (linkAll others).map Scene.previous = (linkAll tangledScenes).map Scene.previous := by
  have hothers : List.Forall₂ Scene.Reordered tangledScenes
      ({ label := "a", previous := some "z", choices := some [⟨"Stay", "a"⟩, ⟨"On", "b"⟩] } ::
        tangledScenes.tail) := by
    refine .cons ⟨.some (.swap _ _ []), rfl⟩ (.cons ⟨.some (.refl _), rfl⟩ ?_)
    exact .cons ⟨.some (.refl _), rfl⟩ (.cons ⟨.none, rfl⟩ .nil)
  obtain ⟨-, -, horder, -⟩ := linkAll_by_first_parent tangledScenes
  exact ⟨by decide, _, hothers, by decide, horder _ hothers⟩

end SceneScript
