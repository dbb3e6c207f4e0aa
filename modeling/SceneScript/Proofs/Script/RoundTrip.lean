import SceneScript.Proofs.Script.Reading
import SceneScript.Proofs.Script.Sections

set_option autoImplicit false
set_option relaxedAutoImplicit false

/-!
# Written scripts are read back

A run over the lines of a block adds the block to the draft, so a run over a written script adds all
its blocks, and no line fails. Main statement: `parse_writeScript` gives the story of a written
script by its blocks.
-/

namespace SceneScript

/-- The scenes among some blocks. -/
def sceneBlocks : List Block -> List SceneBlock
  | [] => []
  | .scene b :: rest => b :: sceneBlocks rest
  | .character _ :: rest => sceneBlocks rest

/-- The characters among some blocks. -/
def characterBlocks : List Block -> List CharacterBlock
  | [] => []
  | .scene _ :: rest => characterBlocks rest
  | .character b :: rest => b :: characterBlocks rest

namespace Draft

variable {d e f : Draft} {line : String} {lines more : List String}

/-! Lines that do not fail -/

/-- Some lines, under any numbers, take one draft to another. -/
def Takes (d : Draft) (lines : List String) (e : Draft) : Prop :=
  ∀ numbered : List (Nat × String), numbered.map Prod.snd = lines → d.run numbered = (e, none)

theorem Takes.nil (d : Draft) : d.Takes [] d := by
  intro numbered h
  rw [List.map_eq_nil_iff.mp h]
  rfl

theorem Takes.cons (hstep : d.step line = (e, none)) (h : e.Takes lines f) :
    d.Takes (line :: lines) f := by
  intro numbered hnumbered
  obtain ⟨⟨n, line'⟩, rest, rfl, rfl, hrest⟩ := List.map_eq_cons_iff.mp hnumbered
  rw [run_cons_ok hstep]
  exact h rest hrest

theorem Takes.append (habove : d.Takes lines e) (hbelow : e.Takes more f) :
    d.Takes (lines ++ more) f := by
  intro numbered hnumbered
  obtain ⟨above, below, rfl, h, h'⟩ := List.map_eq_append_iff.mp hnumbered
  rw [run_append (habove above h)]
  exact hbelow below h'

/-! Lines of blocks -/

/-- A draft with one more block, which is open. -/
def addBlock (d : Draft) : Block -> Draft
  | .scene b => d.startScene (b.toScene none none)
  | .character b => { d.finishCharacter with openCharacter := some b.toCharacter }

theorem takes_choices {b : SceneBlock} {previous : Option String} {choices : List Choice}
    (h : ∀ c ∈ choices, c.WellFormed) (hopen : d.openScene = some (b.toScene previous none)) :
    d.Takes (choices.map Choice.line)
      { d with
        openScene := some ({ b with choices := b.choices ++ choices }.toScene previous none) } := by
  induction choices generalizing d b with
  | nil =>
    have hd : { d with openScene := some (b.toScene previous none) } = d := by rw [← hopen]
    rw [List.append_nil, hd]
    exact .nil d
  | cons c choices ih =>
    have hc : c.WellFormed := h c List.mem_cons_self
    let b' : SceneBlock := { b with choices := b.choices ++ [c] }
    let d' : Draft := { d with openScene := some (b'.toScene previous none) }
    have hstep : d.step c.line = (d', none) := by
      rw [step, ofLine?_choiceLine]
      simp only [readChoiceLine, readChoice, hopen, ofLine_choiceLine hc, b.addChoice_toScene]
      rfl
    have hrest := ih (d := d') (b := b') (fun a ha => h a (List.mem_cons_of_mem c ha)) rfl
    rw [List.append_assoc, List.singleton_append] at hrest
    exact .cons hstep hrest

theorem takes_emotions {b : CharacterBlock} {emotions : List (String × String)}
    (h : ∀ e ∈ emotions, IsPlainWord e.1 ∧ e.2 ≠ "" ∧ IsTrimmedLine e.2)
    (hopen : d.openCharacter = some b.toCharacter) :
    d.Takes (emotions.map emotionLine)
      { d with
        openCharacter := some { b with emotions := b.emotions ++ emotions }.toCharacter } := by
  induction emotions generalizing d b with
  | nil =>
    have hd : { d with openCharacter := some b.toCharacter } = d := by rw [← hopen]
    rw [List.append_nil, hd]
    exact .nil d
  | cons e emotions ih =>
    obtain ⟨hname, hne, hpath⟩ := h e List.mem_cons_self
    let b' : CharacterBlock := { b with emotions := b.emotions ++ [e] }
    let d' : Draft := { d with openCharacter := some b'.toCharacter }
    have hstep : d.step (emotionLine e) = (d', none) := by
      rw [step, ofLine?_emotionLine]
      simp only [readEmotionLine, readEmotion, hopen, ofLine_emotionLine hname hne hpath,
        b.setEmotion_toCharacter]
      rfl
    have hrest := ih (d := d') (b := b') (fun a ha => h a (List.mem_cons_of_mem e ha)) rfl
    rw [List.append_assoc, List.singleton_append] at hrest
    exact .cons hstep hrest

/-- A draft takes the lines of a block by adding the block. -/
theorem takes_block {block : Block} (h : block.WellFormed) (d : Draft) :
    d.Takes block.lines (d.addBlock block) := by
  cases block with
  | scene b =>
    obtain ⟨hlabel, hcondition, htarget, hchoices⟩ := h
    let bare : SceneBlock := { b with choices := [] }
    have hstep : d.step b.line = (d.startScene (bare.toScene none none), none) := by
      rw [step, ofLine?_sceneLine]
      simp only [readSceneLine, ofLine_sceneLine hlabel hcondition htarget]
      simp [SceneBlock.toScene, bare]
    have hopened : { d.startScene (bare.toScene none none) with
        openScene := some (b.toScene (d.openScene.map Scene.label) none) } =
          d.startScene (b.toScene none none) := by
      rw [← openScene_startScene]
      rcases hopen : d.openScene with _ | r
      · rw [startScene_of_none hopen, startScene_of_none hopen]
      · rw [startScene_of_some hopen, startScene_of_some hopen]
        rfl
    rw [addBlock, ← hopened]
    exact .cons hstep (takes_choices hchoices (openScene_startScene d bare))
  | character b =>
    obtain ⟨hname, hemotions⟩ := h
    let bare : CharacterBlock := { b with emotions := [] }
    have hstep : d.step b.line =
        ({ d.finishCharacter with openCharacter := some bare.toCharacter }, none) := by
      rw [step, ofLine?_characterLine]
      simp only [readCharacterLine, ofLine_characterLine hname]
      rfl
    have hnext : ({ d.finishCharacter with openCharacter := some bare.toCharacter } :
        Draft).openCharacter = some bare.toCharacter := rfl
    exact .cons hstep (takes_emotions hemotions hnext)

theorem takes_blocks {blocks : List Block} (h : ∀ b ∈ blocks, b.WellFormed) (d : Draft) :
    d.Takes (blocks.flatMap Block.lines) (blocks.foldl addBlock d) := by
  induction blocks generalizing d with
  | nil => exact .nil d
  | cons b blocks ih =>
    rw [List.flatMap_cons, List.foldl_cons]
    exact (takes_block (h b List.mem_cons_self) d).append
      (ih (fun a ha => h a (List.mem_cons_of_mem b ha)) _)

/-! Blocks of a draft -/

theorem scenes_addBlocks_of_open {b : SceneBlock} {previous : Option String} (blocks : List Block)
    (hopen : d.openScene = some (b.toScene previous none)) :
    (blocks.foldl addBlock d).finish.scenes =
      d.scenes ++ chained previous (b :: sceneBlocks blocks) := by
  induction blocks generalizing d b previous with
  | nil => simp [finish, finishScene, finishCharacter, hopen, chained, sceneBlocks]
  | cons block blocks ih =>
    rw [List.foldl_cons]
    cases block with
    | scene b' =>
      have hnext := openScene_startScene d b'
      rw [hopen] at hnext
      rw [addBlock, ih hnext, scenes_startScene_of_open hopen, sceneBlocks, List.append_assoc]
      rfl
    | character c => exact ih hopen

theorem scenes_addBlocks (blocks : List Block) (hopen : d.openScene = none) :
    (blocks.foldl addBlock d).finish.scenes = d.scenes ++ chained none (sceneBlocks blocks) := by
  induction blocks generalizing d with
  | nil => simp [finish, finishScene, finishCharacter, hopen, chained, sceneBlocks]
  | cons block blocks ih =>
    rw [List.foldl_cons]
    cases block with
    | scene b =>
      have hnext := openScene_startScene d b
      rw [hopen] at hnext
      rw [addBlock, scenes_addBlocks_of_open blocks hnext, scenes_startScene_of_none hopen,
        sceneBlocks]
      rfl
    | character c => exact ih hopen

theorem characters_addBlocks (blocks : List Block) (d : Draft) :
    (blocks.foldl addBlock d).finish.characters =
      d.finishCharacter.characters ++ (characterBlocks blocks).map CharacterBlock.toCharacter := by
  induction blocks generalizing d with
  | nil => simp [finish, finishScene, finishCharacter, characterBlocks]
  | cons block blocks ih =>
    rw [List.foldl_cons, ih]
    cases block with
    | scene b =>
      have hhalf : (d.startScene (b.toScene none none)).finishCharacter.characters =
          d.finishCharacter.characters := by
        rcases hopen : d.openScene with _ | r
        · rw [startScene_of_none hopen, finishCharacter, finishCharacter]
        · rw [startScene_of_some hopen, finishCharacter, finishCharacter]
      rw [addBlock, hhalf, characterBlocks]
    | character c =>
      simp [addBlock, finishCharacter, characterBlocks]

end Draft

/-! Written scripts -/

theorem isLine_of_wellFormed {b : Block} (h : b.WellFormed) :
    ∀ line ∈ b.lines, Text.IsLine line.toList := by
  intro line hline
  cases b with
  | scene b =>
    obtain ⟨hlabel, hcondition, htarget, hchoices⟩ := h
    rcases List.mem_cons.mp hline with rfl | hline
    · exact isLine_sceneLine hlabel hcondition htarget
    · obtain ⟨c, hc, rfl⟩ := List.mem_map.mp hline
      exact isLine_choiceLine (hchoices c hc)
  | character b =>
    obtain ⟨hname, hemotions⟩ := h
    rcases List.mem_cons.mp hline with rfl | hline
    · exact isLine_characterLine hname
    · obtain ⟨e, he, rfl⟩ := List.mem_map.mp hline
      obtain ⟨hword, -, hpath⟩ := hemotions e he
      exact isLine_emotionLine hword hpath

theorem statements_writeScript {blocks : List Block} (h : ∀ b ∈ blocks, b.WellFormed) :
    statements (writeScript blocks) = blocks.flatMap Block.lines := by
  have hlines : ∀ l ∈ blocks.flatMap Block.lines, Text.IsLine l.toList := by
    intro l hl
    obtain ⟨b, hb, hline⟩ := List.mem_flatMap.mp hl
    exact isLine_of_wellFormed (h b hb) l hline
  rw [statements, writeScript, scriptLines_join hlines, List.map_map]
  exact List.zipIdx_map_fst 1 _

/-- A written script is read back: it has the scenes and the characters of its blocks, in order, and
of two entries for one emotion of a character the later one counts. -/
theorem parse_writeScript {blocks : List Block} (h : ∀ b ∈ blocks, b.WellFormed) :
    parse (writeScript blocks) = .ok
        { scenes := declaredScenes (sceneBlocks blocks)
          characters := (characterBlocks blocks).map CharacterBlock.toCharacter } ∧
      ∀ b ∈ characterBlocks blocks, ∀ name,
        b.toCharacter.emotions.get? name = b.emotions.reverse.lookup name := by
  have hrun := Draft.takes_blocks h {} (scriptLines (writeScript blocks))
    (statements_writeScript h)
  constructor
  · refine parse_eq_ok_iff.mpr ⟨_, hrun, ?_⟩
    rw [Draft.story, Draft.scenes_addBlocks blocks rfl, Draft.characters_addBlocks,
      List.nil_append, linkAll_chained]
    rfl
  · intro b _ name
    exact EmotionTable.get?_ofList b.emotions name

/-- Blocks with colons, brackets and arrows where they are allowed, and an emotion given twice. -/
def sampleBlocks : List Block :=
  [.scene ⟨"A", some "k:<1", some "C", [⟨"Go: on", "B <b"⟩, ⟨"", "A"⟩]⟩,
    .character ⟨"Al", [("sad", "s.png"), ("sad", "t -> u.png")]⟩, .scene ⟨"B", none, none, []⟩]

theorem parse_writeScript_sampleBlocks :
    (∀ b ∈ sampleBlocks, b.WellFormed) ∧
      parse (writeScript sampleBlocks) = .ok
        { scenes :=
            [{ label := "A", condition := some "k:<1", next := some "C", previous := some "A"
               choices := some [⟨"Go: on", "B <b"⟩, ⟨"", "A"⟩] },
              { label := "B", previous := some "A" }]
          characters := [{ name := "Al", emotions := .ofList [("sad", "t -> u.png")] }] } := by
  have h : ∀ b ∈ sampleBlocks, b.WellFormed := by decide
  refine ⟨h, (parse_writeScript h).1.trans ?_⟩
  rfl

end SceneScript
