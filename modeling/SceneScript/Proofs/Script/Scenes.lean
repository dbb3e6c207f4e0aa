import SceneScript.Proofs.Script.Sections

set_option autoImplicit false
set_option relaxedAutoImplicit false

/-!
# The scenes of a parse

The scenes of a story are the ones that the sections of its script declare. The induction is on the
lines of a run: the open scene is a block without what follows it, and the rest of the run adds the
choices above the next declaration and one more scene for each section.
-/

namespace SceneScript

namespace Draft

variable {d e : Draft}

theorem scenes_finish (d : Draft) : d.finish.scenes = d.scenes ++ d.openScene.toList := rfl

/-- A run goes on with the open scene: it gets the choices above the next declaration, and each
section adds a scene. -/
theorem run_scenes_of_open {lines : List (Nat × String)} {b : SceneBlock}
    {previous : Option String} (hrun : d.run lines = (e, none))
    (hopen : d.openScene = some (b.toScene previous none)) :
    ∃ choices blocks,
      (((lines.map Prod.snd).takeWhile (fun l => !Keyword.scene.heads l)).filter
        Keyword.choice.heads).map Choice.ofLine = choices.map Except.ok ∧
      List.Forall₂ SceneBlock.ReadFrom blocks
        (sections Keyword.scene.heads (lines.map Prod.snd)) ∧
      e.finish.scenes = d.scenes ++
        chained previous ({ b with choices := b.choices ++ choices } :: blocks) := by
  induction lines generalizing d b previous with
  | nil =>
    cases hrun
    exact ⟨[], [], rfl, .nil, by simp [scenes_finish, hopen, chained]⟩
  | cons l lines ih =>
    obtain ⟨n, line⟩ := l
    obtain ⟨f, hstep, hrest⟩ := run_cons_eq_ok_iff.mp hrun
    rw [List.map_cons]
    rcases (advance_of_step hstep).scene_half with ⟨s, hk, hread, hf, hscenes⟩ |
      ⟨s, c, hk, hchoice, hs, hread, hf, hscenes⟩ | ⟨hk, hchoice, hf, hscenes⟩
    · -- the open scene is finished, and the section of the new one begins
      obtain ⟨b', rfl, hnil, hline⟩ := SceneBlock.exists_of_ofLine hread
      rw [openScene_startScene, hopen] at hf
      rw [scenes_startScene_of_open hopen] at hscenes
      obtain ⟨choices, blocks, hchoices, hblocks, hfinish⟩ := ih hrest hf
      rw [hnil, List.nil_append] at hfinish
      refine ⟨[], { b' with choices } :: blocks, ?_, ?_, ?_⟩
      · simp [hk]
      · rw [sections_cons_of_pos hk]
        exact .cons ⟨hline, hchoices⟩ hblocks
      · rw [hfinish, hscenes, List.append_nil, List.append_assoc]
        rfl
    · -- the open scene gets a choice
      have hf' : f.openScene =
          some ({ b with choices := b.choices ++ [c] }.toScene previous none) := by
        rw [hf, ← SceneBlock.addChoice_toScene, ← Option.some.inj (hopen.symm.trans hs)]
      obtain ⟨choices, blocks, hchoices, hblocks, hfinish⟩ := ih hrest hf'
      refine ⟨c :: choices, blocks, ?_, ?_, ?_⟩
      · simp [hk, hchoice, hread, hchoices]
      · rwa [sections_cons_of_neg hk]
      · rw [hfinish, hscenes, List.append_assoc, List.singleton_append]
    · obtain ⟨choices, blocks, hchoices, hblocks, hfinish⟩ := ih hrest (hf.trans hopen)
      refine ⟨choices, blocks, ?_, ?_, ?_⟩
      · simp [hk, hchoice, hchoices]
      · rwa [sections_cons_of_neg hk]
      · rw [hfinish, hscenes]

theorem run_scenes {lines : List (Nat × String)} (hrun : d.run lines = (e, none))
    (hopen : d.openScene = none) :
    ∃ blocks,
      List.Forall₂ SceneBlock.ReadFrom blocks
        (sections Keyword.scene.heads (lines.map Prod.snd)) ∧
      e.finish.scenes = d.scenes ++ chained none blocks := by
  induction lines generalizing d with
  | nil =>
    cases hrun
    exact ⟨[], .nil, by simp [scenes_finish, hopen, chained]⟩
  | cons l lines ih =>
    obtain ⟨n, line⟩ := l
    obtain ⟨f, hstep, hrest⟩ := run_cons_eq_ok_iff.mp hrun
    rw [List.map_cons]
    rcases (advance_of_step hstep).scene_half with ⟨s, hk, hread, hf, hscenes⟩ |
      ⟨s, c, hk, hchoice, hs, hread, hf, hscenes⟩ | ⟨hk, hchoice, hf, hscenes⟩
    · obtain ⟨b, rfl, hnil, hline⟩ := SceneBlock.exists_of_ofLine hread
      rw [openScene_startScene, hopen] at hf
      rw [scenes_startScene_of_none hopen] at hscenes
      obtain ⟨choices, blocks, hchoices, hblocks, hfinish⟩ := run_scenes_of_open hrest hf
      rw [hnil, List.nil_append] at hfinish
      refine ⟨{ b with choices } :: blocks, ?_, ?_⟩
      · rw [sections_cons_of_pos hk]
        exact .cons ⟨hline, hchoices⟩ hblocks
      · rw [hfinish, hscenes]
        rfl
    · rw [hopen] at hs
      cases hs
    · obtain ⟨blocks, hblocks, hfinish⟩ := ih hrest (hf.trans hopen)
      refine ⟨blocks, ?_, ?_⟩
      · rwa [sections_cons_of_neg hk]
      · rw [hfinish, hscenes]

end Draft

/-- The scenes of a story are the ones that the sections of its script declare. -/
theorem scenes_of_parse {script : String} {story : Story} (h : parse script = .ok story) :
    ∃ blocks,
      List.Forall₂ SceneBlock.ReadFrom blocks
        (sections Keyword.scene.heads (statements script)) ∧
      story.scenes = declaredScenes blocks ∧
      story.scenes.length = (statements script).countP Keyword.scene.heads := by
  obtain ⟨d, hrun, rfl⟩ := parse_eq_ok_iff.mp h
  obtain ⟨blocks, hblocks, hfinish⟩ := Draft.run_scenes hrun rfl
  have hscenes : d.finish.story.scenes = declaredScenes blocks := by
    rw [Draft.story, hfinish, List.nil_append, linkAll_chained]
  refine ⟨blocks, hblocks, hscenes, ?_⟩
  calc
    d.finish.story.scenes.length = blocks.length := by
      rw [hscenes, declaredScenes, List.length_mapIdx]
    _ = (sections Keyword.scene.heads (statements script)).length := hblocks.length_eq
    _ = (statements script).countP Keyword.scene.heads := by
      rw [List.countP_eq_length_filter, ← map_fst_sections, List.length_map]

/-- A script that declares a label twice and has a choice that leads to it. -/
def returningScript : String :=
  "scene A<k>:\n    choice<C>: Go\n\ncharacter Al:\nscene B -> X:\n    choice<A>: Back\nscene A:"

/-- The story of `returningScript`. -/
def returningStory : Story :=
  { scenes :=
      [{ label := "A", condition := some "k", next := some "B", previous := some "B",
         choices := some [⟨"Go", "C"⟩] },
        { label := "B", next := some "X", previous := some "A", choices := some [⟨"Back", "A"⟩] },
        { label := "A", previous := some "B" }]
    characters := [{ name := "Al" }] }

set_option maxRecDepth 4000 in
theorem scenes_of_returningScript :
    parse returningScript = .ok returningStory ∧
      ∃ blocks,
        List.Forall₂ SceneBlock.ReadFrom blocks
          (sections Keyword.scene.heads (statements returningScript)) ∧
        returningStory.scenes = declaredScenes blocks ∧
        returningStory.scenes.length =
          (statements returningScript).countP Keyword.scene.heads := by
  have h : parse returningScript = .ok returningStory := by rfl
  exact ⟨h, scenes_of_parse h⟩

end SceneScript
