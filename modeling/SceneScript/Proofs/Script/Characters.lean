import SceneScript.Proofs.Script.Scenes

set_option autoImplicit false
set_option relaxedAutoImplicit false

/-!
# The characters of a parse

The characters of a story are the ones that the sections of its script declare. Lines about scenes
stand anywhere among these sections and change nothing. Main statement: `characters_of_parse`. With
the reading of the scenes it makes `exists_blocks_of_parse`, which gives a whole story by the blocks
of its script.
-/

namespace SceneScript

theorem CharacterBlock.exists_of_ofLine {line : String} {c : Character}
    (h : Character.ofLine line = .ok c) :
    ∃ b : CharacterBlock, c = b.toCharacter ∧ b.emotions = [] ∧
      Character.ofLine line = .ok { name := b.name } := by
  have hc : c = { name := c.name } := by
    rw [Character.ofLine] at h
    split at h
    · cases h
    · rw [← Except.ok.inj h]
  exact ⟨⟨c.name, []⟩, hc, rfl, h.trans (congrArg Except.ok hc)⟩

namespace Draft

variable {d e : Draft}

theorem characters_finish (d : Draft) :
    d.finish.characters = d.characters ++ d.openCharacter.toList := rfl

/-- A run goes on with the open character, if there is one: it gets the emotions above the next
declaration, and each section adds a character. -/
theorem run_characters {lines : List (Nat × String)} {o : Option CharacterBlock}
    (hrun : d.run lines = (e, none))
    (hopen : d.openCharacter = o.map CharacterBlock.toCharacter) :
    ∃ (emotions : List (String × String)) (blocks : List CharacterBlock),
      (((lines.map Prod.snd).takeWhile (fun l => !Keyword.character.heads l)).filter
        Keyword.emotion.heads).map EmotionEntry.ofLine =
          emotions.map (fun e => .ok ⟨e.1, e.2⟩) ∧
      List.Forall₂ CharacterBlock.ReadFrom blocks
        (sections Keyword.character.heads (lines.map Prod.snd)) ∧
      e.finish.characters = d.characters ++
        ((o.map (fun b => CharacterBlock.mk b.name (b.emotions ++ emotions))).toList ++ blocks).map
          CharacterBlock.toCharacter := by
  induction lines generalizing d o with
  | nil =>
    cases hrun
    refine ⟨[], [], rfl, .nil, ?_⟩
    rw [characters_finish, hopen]
    cases o <;> simp
  | cons l lines ih =>
    obtain ⟨n, line⟩ := l
    obtain ⟨f, hstep, hrest⟩ := run_cons_eq_ok_iff.mp hrun
    rw [List.map_cons]
    rcases (advance_of_step hstep).character_half with ⟨c, hk, hread, hf, hdone⟩ |
      ⟨c, entry, hk, hemotion, hc, hread, hf, hdone⟩ | ⟨hk, hemotion, hf, hdone⟩
    · -- the open character is finished, and the section of the new one begins
      obtain ⟨b, rfl, hnil, hline⟩ := CharacterBlock.exists_of_ofLine hread
      obtain ⟨emotions, blocks, hemotions, hblocks, hfinish⟩ := ih (o := some b) hrest hf
      refine ⟨[], { b with emotions } :: blocks, ?_, ?_, ?_⟩
      · simp [hk]
      · rw [sections_cons_of_pos hk]
        exact .cons ⟨hline, hemotions⟩ hblocks
      · rw [hfinish, hdone, hopen, List.append_assoc]
        cases o <;> simp [hnil]
    · -- the open character gets an emotion
      obtain ⟨b, rfl, rfl⟩ := Option.map_eq_some_iff.mp (hopen.symm.trans hc)
      rw [b.setEmotion_toCharacter (entry.name, entry.path)] at hf
      obtain ⟨emotions, blocks, hemotions, hblocks, hfinish⟩ := ih (o := some _) hrest hf
      refine ⟨(entry.name, entry.path) :: emotions, blocks, ?_, ?_, ?_⟩
      · simp [hk, hemotion, hread, hemotions]
      · rwa [sections_cons_of_neg hk]
      · rw [hfinish, hdone]
        simp
    · obtain ⟨emotions, blocks, hemotions, hblocks, hfinish⟩ := ih hrest (hf.trans hopen)
      refine ⟨emotions, blocks, ?_, ?_, ?_⟩
      · simp [hk, hemotion, hemotions]
      · rwa [sections_cons_of_neg hk]
      · rw [hfinish, hdone]

end Draft

/-- A story is told by the blocks that the sections of its script are read as. -/
theorem exists_blocks_of_parse {script : String} {story : Story}
    (h : parse script = .ok story) :
    ∃ scenes characters,
      List.Forall₂ SceneBlock.ReadFrom scenes
        (sections Keyword.scene.heads (statements script)) ∧
      List.Forall₂ CharacterBlock.ReadFrom characters
        (sections Keyword.character.heads (statements script)) ∧
      story = { scenes := declaredScenes scenes
                characters := characters.map CharacterBlock.toCharacter } := by
  obtain ⟨d, hrun, rfl⟩ := parse_eq_ok_iff.mp h
  obtain ⟨scenes, hscenes, hfinish⟩ := Draft.run_scenes hrun rfl
  obtain ⟨emotions, characters, -, hcharacters, hdone⟩ :=
    Draft.run_characters (o := none) hrun rfl
  refine ⟨scenes, characters, hscenes, hcharacters, ?_⟩
  rw [Draft.story, hfinish, hdone, List.nil_append, linkAll_chained]
  rfl

/-- The characters of a story are the ones that the sections of its script declare, each with the
emotions of its own section: a name has the path on its last line, and the names stand in the order
of their first lines. -/
theorem characters_of_parse {script : String} {story : Story} (h : parse script = .ok story) :
    ∃ blocks,
      List.Forall₂ CharacterBlock.ReadFrom blocks
        (sections Keyword.character.heads (statements script)) ∧
      story.characters = blocks.map CharacterBlock.toCharacter ∧
      story.characters.length = (statements script).countP Keyword.character.heads ∧
      ∀ b ∈ blocks,
        b.toCharacter.emotions.names = (b.emotions.map Prod.fst).eraseDups ∧
        ∀ name, b.toCharacter.emotions.get? name = b.emotions.reverse.lookup name := by
  obtain ⟨-, blocks, -, hblocks, rfl⟩ := exists_blocks_of_parse h
  refine ⟨blocks, hblocks, rfl, ?_, ?_⟩
  · rw [List.length_map, hblocks.length_eq, ← List.length_map Prod.fst, map_fst_sections,
      List.countP_eq_length_filter]
  · intro b _
    exact ⟨EmotionTable.names_ofList b.emotions, EmotionTable.get?_ofList b.emotions⟩

/-- A script with two characters of one name, a scene among the emotions of the first one, and an
emotion given twice there. -/
def namesakeScript : String :=
  "character Al:\n    emotion sad: s.png\nscene A:\n    emotion shy: h.png\n" ++
    "    choice<A>: Stay\n    emotion sad: t.png\ncharacter Al:\n    emotion shy: i.png"

/-- The story of `namesakeScript`. -/
def namesakeStory : Story :=
  { scenes := [{ label := "A", previous := some "A", choices := some [⟨"Stay", "A"⟩] }]
    characters :=
      [{ name := "Al", emotions := .ofList [("sad", "t.png"), ("shy", "h.png")] },
        { name := "Al", emotions := .ofList [("shy", "i.png")] }] }

theorem characters_of_namesakeScript :
    parse namesakeScript = .ok namesakeStory ∧
      ∃ blocks,
        List.Forall₂ CharacterBlock.ReadFrom blocks
          (sections Keyword.character.heads (statements namesakeScript)) ∧
        namesakeStory.characters = blocks.map CharacterBlock.toCharacter ∧
        namesakeStory.characters.length =
          (statements namesakeScript).countP Keyword.character.heads ∧
        ∀ b ∈ blocks,
          b.toCharacter.emotions.names = (b.emotions.map Prod.fst).eraseDups ∧
          ∀ name, b.toCharacter.emotions.get? name = b.emotions.reverse.lookup name := by
  have h : parse namesakeScript = .ok namesakeStory := by decide +kernel
  exact ⟨h, characters_of_parse h⟩

end SceneScript
