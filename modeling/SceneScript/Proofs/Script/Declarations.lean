import SceneScript.Proofs.Script.Characters

set_option autoImplicit false
set_option relaxedAutoImplicit false

/-!
# What declarations say of a story

The labels of a story, its names and the order in which its scenes follow each other are read off
the words of its declaration lines. Nothing forbids that two lines declare the same label or name,
and the fourth word of a scene line names the next scene whatever the third one is. Main statements:
`lookup_by_declaration` says which scene or character is found under a label or name, and
`next_by_declaration` where each next scene comes from.
-/

namespace SceneScript

/-- The lines of a script that are statements of a keyword, in order. -/
def declarations (k : Keyword) (script : String) : List String :=
  (statements script).filter k.heads

/-- The label that a scene line declares: its second word without the first bracketed segment and
without the colons at its end. -/
def declaredLabel (line : String) : String :=
  String.ofList (dropColons (splitParameter (Text.word 1 line.toList)).1)

/-- The name that a character line declares: its second word without the colons at its end. -/
def declaredName (line : String) : String :=
  String.ofList (dropColons (Text.word 1 line.toList))

/-- A scene line has no fourth word, or one of colons alone. -/
def NamesNoNext (line : String) : Prop :=
  ∀ c ∈ Text.word 3 line.toList, c = ':'

instance (line : String) : Decidable (NamesNoNext line) :=
  List.decidableBAll _ (Text.word 3 line.toList)

/-! Declarations of blocks -/

section Blocks

variable {b : SceneBlock} {c : CharacterBlock} {line : String}

theorem label_of_declaration
    (h : Scene.ofLine line =
      .ok { label := b.label, condition := b.condition, next := b.target }) :
    b.label = declaredLabel line ∧ b.target = nonEmpty? (dropColons (Text.word 3 line.toList)) := by
  obtain ⟨-, hscene⟩ := eq_of_sceneOfLine h
  exact ⟨congrArg Scene.label hscene, congrArg Scene.next hscene⟩

theorem name_of_declaration (h : Character.ofLine line = .ok { name := c.name }) :
    c.name = declaredName line := by
  rw [Character.ofLine] at h
  split at h
  · cases h
  · exact (congrArg Character.name (Except.ok.inj h)).symm

theorem dropColons_eq_nil_iff {cs : List Char} : dropColons cs = [] ↔ ∀ c ∈ cs, c = ':' := by
  rw [dropColons, Text.dropEndWhile_eq_rdropWhile, List.rdropWhile_eq_nil_iff]
  simp only [beq_iff_eq]

theorem nonEmpty?_of_namesNoNext (h : NamesNoNext line) :
    nonEmpty? (dropColons (Text.word 3 line.toList)) = none := by
  rw [dropColons_eq_nil_iff.mpr h]
  rfl

theorem nonEmpty?_of_not_namesNoNext (h : ¬ NamesNoNext line) :
    nonEmpty? (dropColons (Text.word 3 line.toList)) =
      some (String.ofList (dropColons (Text.word 3 line.toList))) := by
  have hne : dropColons (Text.word 3 line.toList) ≠ [] := fun hnil =>
    h (dropColons_eq_nil_iff.mp hnil)
  rw [nonEmpty?, List.isEmpty_eq_false_iff.mpr hne]
  rfl

end Blocks

/-! Blocks beside their lines -/

section Beside

variable {script : String} {scenes : List SceneBlock} {characters : List CharacterBlock}

/-- Two lists that agree element by element in a value of each have the same values. -/
theorem map_eq_map_of_forall₂ {α β γ : Type} {f : α -> γ} {g : β -> γ} {xs : List α} {ys : List β}
    (h : List.Forall₂ (fun x y => f x = g y) xs ys) : xs.map f = ys.map g := by
  rw [← List.forall₂_eq_eq_eq, List.forall₂_map_left_iff, List.forall₂_map_right_iff]
  exact h

theorem label_and_target_of_readFrom
    (h : List.Forall₂ SceneBlock.ReadFrom scenes
      (sections Keyword.scene.heads (statements script))) :
    scenes.map SceneBlock.label = (declarations .scene script).map declaredLabel ∧
      scenes.map SceneBlock.target = (declarations .scene script).map
        (fun line => nonEmpty? (dropColons (Text.word 3 line.toList))) := by
  rw [declarations, ← map_fst_sections, List.map_map, List.map_map]
  constructor
  · apply map_eq_map_of_forall₂
    exact h.imp (fun _ _ hb => (label_of_declaration hb.declaration).1)
  · apply map_eq_map_of_forall₂
    exact h.imp (fun _ _ hb => (label_of_declaration hb.declaration).2)

theorem name_of_readFrom
    (h : List.Forall₂ CharacterBlock.ReadFrom characters
      (sections Keyword.character.heads (statements script))) :
    characters.map CharacterBlock.name = (declarations .character script).map declaredName := by
  rw [declarations, ← map_fst_sections, List.map_map]
  apply map_eq_map_of_forall₂
  exact h.imp (fun _ _ hb => name_of_declaration hb.declaration)

end Beside

/-! Labels and names -/

/-- The first element with a key stands where the key is first listed. -/
theorem find?_eq_getElem?_idxOf {α : Type} (key : α -> String) (xs : List α) (k : String) :
    xs.find? (fun x => key x == k) = xs[(xs.map key).idxOf k]? := by
  rw [List.find?_eq_getElem?_findIdx, List.idxOf, List.findIdx_map]
  rfl

/-- An element is found under its key if no key is listed twice. -/
theorem find?_of_nodup {α : Type} {key : α -> String} {xs : List α} (h : (xs.map key).Nodup)
    {x : α} (hx : x ∈ xs) : xs.find? (fun y => key y == key x) = some x := by
  obtain ⟨i, hi, rfl⟩ := List.mem_iff_getElem.mp hx
  have hkey : (xs.map key).idxOf (key xs[i]) = i := by
    have hat := h.idxOf_getElem i (by rwa [List.length_map])
    rwa [List.getElem_map] at hat
  rw [find?_eq_getElem?_idxOf, hkey, List.getElem?_eq_getElem hi]

theorem labels_of_parse {script : String} {story : Story} (h : parse script = .ok story) :
    story.scenes.map Scene.label = (declarations .scene script).map declaredLabel ∧
      story.characters.map Character.name = (declarations .character script).map declaredName := by
  obtain ⟨scenes, characters, hscenes, hcharacters, rfl⟩ := exists_blocks_of_parse h
  constructor
  · rw [map_label_declaredScenes]
    exact (label_and_target_of_readFrom hscenes).1
  · rw [List.map_map]
    exact name_of_readFrom hcharacters

/-- The labels and names of a story are the declared ones, those given twice included. A label or
name finds what is declared with it first. If no label is declared twice then each scene is found
under its own, and likewise for characters. -/
theorem lookup_by_declaration {script : String} {story : Story} (h : parse script = .ok story) :
    story.scenes.map Scene.label = (declarations .scene script).map declaredLabel ∧
    story.characters.map Character.name = (declarations .character script).map declaredName ∧
    (∀ label, story.scene? label =
      story.scenes[((declarations .scene script).map declaredLabel).idxOf label]?) ∧
    (∀ name, story.character? name =
      story.characters[((declarations .character script).map declaredName).idxOf name]?) ∧
    (((declarations .scene script).map declaredLabel).Nodup →
      (story.scenes.map Scene.label).Nodup ∧
        ∀ s ∈ story.scenes, story.scene? s.label = some s) ∧
    (((declarations .character script).map declaredName).Nodup →
      (story.characters.map Character.name).Nodup ∧
        ∀ c ∈ story.characters, story.character? c.name = some c) := by
  obtain ⟨hlabels, hnames⟩ := labels_of_parse h
  rw [← hlabels, ← hnames]
  refine ⟨rfl, rfl, ?_, ?_, ?_, ?_⟩
  · intro label
    exact find?_eq_getElem?_idxOf Scene.label story.scenes label
  · intro name
    exact find?_eq_getElem?_idxOf Character.name story.characters name
  · intro hnodup
    exact ⟨hnodup, fun s hs => find?_of_nodup hnodup hs⟩
  · intro hnodup
    exact ⟨hnodup, fun c hc => find?_of_nodup hnodup hc⟩

/-- A script that declares a label and a name twice. The label is the same one without its
condition. -/
def twinScript : String :=
  "scene a<k>:\nscene a:\ncharacter Al:\ncharacter Al:\n    emotion sad: s.png"

/-- The story of `twinScript`. -/
def twinStory : Story :=
  { scenes :=
      [{ label := "a", condition := some "k", next := some "a" },
        { label := "a", previous := some "a" }]
    characters := [{ name := "Al" }, { name := "Al", emotions := .ofList [("sad", "s.png")] }] }

theorem twinScript_repeats_label_and_name :
    parse twinScript = .ok twinStory ∧
      ¬ (twinStory.scenes.map Scene.label).Nodup ∧
      ¬ (twinStory.characters.map Character.name).Nodup ∧
      (∃ s ∈ twinStory.scenes, twinStory.scene? s.label ≠ some s) ∧
      ∃ c ∈ twinStory.characters, twinStory.character? c.name ≠ some c := by
  have h : parse twinScript = .ok twinStory := by decide +kernel
  exact ⟨h, by decide, by decide, by decide, by decide⟩

/-- A script whose scene lines have a fourth word without an arrow, an arrow without a fourth word
and no more than a label. -/
def crossedScript : String :=
  "scene a x d:\nscene b ->:\nscene c<k>:\ncharacter Al:\n    emotion sad: s.png\ncharacter Al:"

/-- The story of `crossedScript`. -/
def crossedStory : Story :=
  { scenes :=
      [{ label := "a", next := some "d" },
        { label := "b", next := some "c", previous := some "a" },
        { label := "c", condition := some "k", previous := some "b" }]
    characters := [{ name := "Al", emotions := .ofList [("sad", "s.png")] }, { name := "Al" }] }

theorem parse_crossedScript : parse crossedScript = .ok crossedStory := by decide +kernel

theorem declarations_crossedScript :
    declarations .scene crossedScript = ["scene a x d:", "scene b ->:", "scene c<k>:"] ∧
      declarations .character crossedScript = ["character Al:", "character Al:"] := by
  decide +kernel

theorem lookup_in_crossedScript :
    parse crossedScript = .ok crossedStory ∧
      ((declarations .scene crossedScript).map declaredLabel).Nodup ∧
      (∀ s ∈ crossedStory.scenes, crossedStory.scene? s.label = some s) ∧
      ¬ ((declarations .character crossedScript).map declaredName).Nodup ∧
      crossedStory.character? "Al" = crossedStory.characters[0]? := by
  obtain ⟨-, -, -, hfirst, hscenes, -⟩ := lookup_by_declaration parse_crossedScript
  obtain ⟨hlines, hothers⟩ := declarations_crossedScript
  have hnodup : ((declarations .scene crossedScript).map declaredLabel).Nodup := by
    rw [hlines]
    decide
  refine ⟨parse_crossedScript, hnodup, (hscenes hnodup).2, ?_, ?_⟩
  · rw [hothers]
    decide
  · rw [hfirst, hothers]
    decide

/-! Next scenes -/

/-- A scene has as its next one the scene that the fourth word of its line names, and without such a
word the one that is declared below it, if there is one. -/
theorem next_by_declaration {script : String} {story : Story} (h : parse script = .ok story) :
    story.scenes.length = (declarations .scene script).length ∧
    ∀ i line scene, (declarations .scene script)[i]? = some line →
      story.scenes[i]? = some scene →
        (NamesNoNext line → scene.next = story.scenes[i + 1]?.map Scene.label) ∧
        (¬ NamesNoNext line →
          scene.next = some (String.ofList (dropColons (Text.word 3 line.toList)))) := by
  obtain ⟨scenes, characters, hscenes, -, rfl⟩ := exists_blocks_of_parse h
  obtain ⟨hlabels, htargets⟩ := label_and_target_of_readFrom hscenes
  constructor
  · have hlength := congrArg List.length hlabels
    rwa [← map_label_declaredScenes, List.length_map, List.length_map] at hlength
  · intro i line scene hline hscene
    -- the block of the scene has the target of the line
    rw [getElem?_declaredScenes] at hscene
    obtain ⟨b, hb, rfl⟩ := Option.map_eq_some_iff.mp hscene
    have htarget : b.target = nonEmpty? (dropColons (Text.word 3 line.toList)) := by
      have hat := congrArg (fun targets => targets[i]?) htargets
      simp only [List.getElem?_map, hb, hline, Option.map_some] at hat
      exact Option.some.inj hat
    have hbelow : (declaredScenes scenes)[i + 1]?.map Scene.label =
        scenes[i + 1]?.map SceneBlock.label := by
      rw [← List.getElem?_map, map_label_declaredScenes, List.getElem?_map]
    constructor
    · intro hnone
      rw [hbelow, SceneBlock.toScene, htarget, nonEmpty?_of_namesNoNext hnone, Option.none_or]
    · intro hsome
      rw [SceneBlock.toScene, htarget, nonEmpty?_of_not_namesNoNext hsome, Option.some_or]

theorem next_in_crossedScript :
    parse crossedScript = .ok crossedStory ∧
      (¬ NamesNoNext "scene a x d:" ∧
        ∀ s, crossedStory.scenes[0]? = some s → s.next = some "d") ∧
      NamesNoNext "scene b ->:" ∧
        ∀ s, crossedStory.scenes[1]? = some s →
          s.next = crossedStory.scenes[2]?.map Scene.label := by
  obtain ⟨-, hnext⟩ := next_by_declaration parse_crossedScript
  rw [declarations_crossedScript.1] at hnext
  have hnamed : ¬ NamesNoNext "scene a x d:" := by decide
  have hunnamed : NamesNoNext "scene b ->:" := by decide
  exact ⟨parse_crossedScript, ⟨hnamed, fun s hs => (hnext 0 _ s rfl hs).2 hnamed⟩,
    hunnamed, fun s hs => (hnext 1 _ s rfl hs).1 hunnamed⟩

/-- A next scene is named without an arrow, so a line without one does not chain its scene. -/
theorem crossedScript_not_chained_without_arrow :
    parse crossedScript = .ok crossedStory ∧
      (declarations .scene crossedScript)[0]? = some "scene a x d:" ∧
      Text.word 2 "scene a x d:".toList ≠ "->".toList ∧
      ∃ s t, crossedStory.scenes[0]? = some s ∧ crossedStory.scenes[1]? = some t ∧
        s.next ≠ some t.label := by
  refine ⟨parse_crossedScript, ?_, by decide, _, _, rfl, rfl, by decide⟩
  rw [declarations_crossedScript.1]
  rfl

end SceneScript
