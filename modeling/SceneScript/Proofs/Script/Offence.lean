import SceneScript.Proofs.Script.Step

set_option autoImplicit false
set_option relaxedAutoImplicit false

/-!
# Offending lines

What can be wrong with a line of a script, told from the lines above it and without a draft. Main
statement: `parse_fails_at_first_offence`, by which a parse fails where the first line offends and
nowhere else. It rests on one invariant of a run: a scene is open if and only if a line has declared
one, and likewise for characters.
-/

namespace SceneScript

/-- There is no text in the first brackets before the colon of a line, if there are brackets. -/
def NamesNoTarget (line : String) : Prop :=
  ∀ s, Text.firstSegment? (Text.before ':' line.toList) = some s → s.inner = []

/-- Nothing but blanks follows the first colon of a line, if there is a colon. -/
def NamesNoPath (line : String) : Prop :=
  ∀ rest, Text.after? ':' line.toList = some rest → Text.isBlankText rest = true

/-- The ways in which a line offends below the lines above it. -/
inductive Offends (above : List String) (line : String) : Cause -> Prop
  | sceneText (head : Keyword.ofLine? line = some .scene) (inline : hasInlineText line = true) :
      Offends above line (.inlineText "scenes")
  | characterText (head : Keyword.ofLine? line = some .character)
      (inline : hasInlineText line = true) : Offends above line (.inlineText "characters")
  | choiceOutside (head : Keyword.ofLine? line = some .choice)
      (outside : ∀ l ∈ above, Keyword.ofLine? l ≠ some .scene) :
      Offends above line .choiceOutsideScene
  | choiceTarget (head : Keyword.ofLine? line = some .choice)
      (inside : ∃ l ∈ above, Keyword.ofLine? l = some .scene) (bare : NamesNoTarget line) :
      Offends above line .choiceWithoutTarget
  | emotionOutside (head : Keyword.ofLine? line = some .emotion)
      (outside : ∀ l ∈ above, Keyword.ofLine? l ≠ some .character) :
      Offends above line .emotionOutsideCharacter
  | emotionPath (head : Keyword.ofLine? line = some .emotion)
      (inside : ∃ l ∈ above, Keyword.ofLine? l = some .character) (bare : NamesNoPath line) :
      Offends above line .emotionWithoutPath

/-- No line offends. -/
def Inoffensive (lines : List String) : Prop :=
  ∀ above line below cause, lines = above ++ line :: below → ¬ Offends above line cause

/-- A line that offends below some lines offends without the first of these, but it may be for
another cause. -/
theorem Offends.exists_of_append {more above : List String} {line : String} {cause : Cause}
    (h : Offends (more ++ above) line cause) : ∃ other, Offends above line other := by
  cases h with
  | sceneText head inline => exact ⟨_, .sceneText head inline⟩
  | characterText head inline => exact ⟨_, .characterText head inline⟩
  | choiceOutside head outside =>
    exact ⟨_, .choiceOutside head (fun l hl => outside l (List.mem_append_right more hl))⟩
  | choiceTarget head inside bare =>
    by_cases hinside : ∃ l ∈ above, Keyword.ofLine? l = some .scene
    · exact ⟨_, .choiceTarget head hinside bare⟩
    · exact ⟨_, .choiceOutside head (fun l hl hscene => hinside ⟨l, hl, hscene⟩)⟩
  | emotionOutside head outside =>
    exact ⟨_, .emotionOutside head (fun l hl => outside l (List.mem_append_right more hl))⟩
  | emotionPath head inside bare =>
    by_cases hinside : ∃ l ∈ above, Keyword.ofLine? l = some .character
    · exact ⟨_, .emotionPath head hinside bare⟩
    · exact ⟨_, .emotionOutside head (fun l hl hcharacter => hinside ⟨l, hl, hcharacter⟩)⟩

/-- Lines that do not offend on their own do not offend below others. -/
theorem Inoffensive.append {lines more : List String} (hlines : Inoffensive lines)
    (hmore : Inoffensive more) : Inoffensive (lines ++ more) := by
  intro above line below cause hsplit hoffends
  rcases List.append_eq_append_iff.mp hsplit with ⟨rest, rfl, hrest⟩ | ⟨rest, rfl, hrest⟩
  · obtain ⟨other, hother⟩ := hoffends.exists_of_append
    exact hmore rest line below other hrest hother
  · cases rest with
    | nil =>
      rw [← List.append_nil above] at hoffends
      obtain ⟨other, hother⟩ := hoffends.exists_of_append
      exact hmore [] line below other hrest.symm hother
    | cons l rest =>
      obtain ⟨rfl, -⟩ := List.cons.inj hrest
      exact hlines above line rest cause rfl hoffends

/-! Statements that cannot be read -/

variable {line : String}

theorem namesNoTarget_iff :
    NamesNoTarget line ↔ (splitParameter (Text.before ':' line.toList)).2 = none := by
  rw [NamesNoTarget, splitParameter]
  split
  · rename_i hnone
    simp [hnone]
  · rename_i s hsome
    simp [hsome]

theorem namesNoPath_iff : NamesNoPath line ↔ afterColon line = [] := by
  rw [NamesNoPath, afterColon, Text.trim_eq_nil_iff]
  rcases Text.after? ':' line.toList with _ | rest
  · simp [Text.isBlankText]
  · simp

theorem sceneOfLine_eq_error_iff {x : ScriptError} :
    Scene.ofLine line = .error x ↔
      hasInlineText line = true ∧ x = { cause := .inlineText "scenes", line } := by
  rw [Scene.ofLine]
  split
  · rename_i h
    simp [h, eq_comm]
  · rename_i h
    simp [h]

theorem characterOfLine_eq_error_iff {x : ScriptError} :
    Character.ofLine line = .error x ↔
      hasInlineText line = true ∧ x = { cause := .inlineText "characters", line } := by
  rw [Character.ofLine]
  split
  · rename_i h
    simp [h, eq_comm]
  · rename_i h
    simp [h]

theorem choiceOfLine_eq_error_iff {x : ScriptError} :
    Choice.ofLine line = .error x ↔
      NamesNoTarget line ∧ x = { cause := .choiceWithoutTarget, line } := by
  rw [Choice.ofLine, namesNoTarget_iff]
  split
  · rename_i h
    simp [h, eq_comm]
  · rename_i h
    simp [h]

theorem emotionOfLine_eq_error_iff {x : ScriptError} :
    EmotionEntry.ofLine line = .error x ↔
      NamesNoPath line ∧ x = { cause := .emotionWithoutPath, line } := by
  rw [EmotionEntry.ofLine, namesNoPath_iff, ← List.isEmpty_iff]
  split
  · rename_i h
    simp [h, eq_comm]
  · rename_i h
    simp [h]

namespace Draft

variable {d e : Draft} {x : ScriptError}

/-! Steps that fail -/

theorem readSceneLine_eq_error_iff :
    (d.readSceneLine line).2 = some x ↔
      hasInlineText line = true ∧ x = { cause := .inlineText "scenes", line } := by
  rw [← sceneOfLine_eq_error_iff, readSceneLine]
  split <;> rename_i h <;> simp [h]

theorem readCharacterLine_eq_error_iff :
    (d.readCharacterLine line).2 = some x ↔
      hasInlineText line = true ∧ x = { cause := .inlineText "characters", line } := by
  rw [← characterOfLine_eq_error_iff, readCharacterLine]
  split <;> rename_i h <;> simp [h]

theorem readChoiceLine_eq_error_iff :
    (d.readChoiceLine line).2 = some x ↔
      (d.openScene.isSome = false ∧ x = { cause := .choiceOutsideScene, line }) ∨
      (d.openScene.isSome = true ∧ NamesNoTarget line ∧
        x = { cause := .choiceWithoutTarget, line }) := by
  rw [← choiceOfLine_eq_error_iff, readChoiceLine]
  rcases d.openScene with _ | s
  · simp [readChoice, eq_comm]
  · cases hread : Choice.ofLine line <;> simp [readChoice, hread]

theorem readEmotionLine_eq_error_iff :
    (d.readEmotionLine line).2 = some x ↔
      (d.openCharacter.isSome = false ∧ x = { cause := .emotionOutsideCharacter, line }) ∨
      (d.openCharacter.isSome = true ∧ NamesNoPath line ∧
        x = { cause := .emotionWithoutPath, line }) := by
  rw [← emotionOfLine_eq_error_iff, readEmotionLine]
  rcases d.openCharacter with _ | c
  · simp [readEmotion, eq_comm]
  · cases hread : EmotionEntry.ofLine line <;> simp [readEmotion, hread]

theorem line_of_step_error (h : (d.step line).2 = some x) : x.line = line := by
  rw [step] at h
  split at h
  · obtain ⟨-, rfl⟩ := readCharacterLine_eq_error_iff.mp h
    rfl
  · rcases readEmotionLine_eq_error_iff.mp h with ⟨-, rfl⟩ | ⟨-, -, rfl⟩ <;> rfl
  · obtain ⟨-, rfl⟩ := readSceneLine_eq_error_iff.mp h
    rfl
  · rcases readChoiceLine_eq_error_iff.mp h with ⟨-, rfl⟩ | ⟨-, -, rfl⟩ <;> rfl
  · cases h
  · cases h
  · cases h

/-- What is open in a draft is what the lines above have declared. -/
structure OpenAfter (d : Draft) (above : List String) : Prop where
  scene : d.openScene.isSome = true ↔ ∃ l ∈ above, Keyword.ofLine? l = some .scene
  character : d.openCharacter.isSome = true ↔ ∃ l ∈ above, Keyword.ofLine? l = some .character

theorem OpenAfter.noScene {above : List String} (h : OpenAfter d above) :
    d.openScene.isSome = false ↔ ∀ l ∈ above, Keyword.ofLine? l ≠ some .scene := by
  rw [← Bool.not_eq_true, h.scene]
  simp

theorem OpenAfter.noCharacter {above : List String} (h : OpenAfter d above) :
    d.openCharacter.isSome = false ↔ ∀ l ∈ above, Keyword.ofLine? l ≠ some .character := by
  rw [← Bool.not_eq_true, h.character]
  simp

theorem step_eq_error_iff {above : List String} (h : OpenAfter d above) :
    (d.step line).2 = some x ↔ ∃ cause, Offends above line cause ∧ x = { cause, line } := by
  rw [step]
  constructor
  · intro hx
    split at hx
    · rename_i head
      obtain ⟨inline, rfl⟩ := readCharacterLine_eq_error_iff.mp hx
      exact ⟨_, .characterText head inline, rfl⟩
    · rename_i head
      rcases readEmotionLine_eq_error_iff.mp hx with ⟨outside, rfl⟩ | ⟨inside, bare, rfl⟩
      · exact ⟨_, .emotionOutside head (h.noCharacter.mp outside), rfl⟩
      · exact ⟨_, .emotionPath head (h.character.mp inside) bare, rfl⟩
    · rename_i head
      obtain ⟨inline, rfl⟩ := readSceneLine_eq_error_iff.mp hx
      exact ⟨_, .sceneText head inline, rfl⟩
    · rename_i head
      rcases readChoiceLine_eq_error_iff.mp hx with ⟨outside, rfl⟩ | ⟨inside, bare, rfl⟩
      · exact ⟨_, .choiceOutside head (h.noScene.mp outside), rfl⟩
      · exact ⟨_, .choiceTarget head (h.scene.mp inside) bare, rfl⟩
    · cases hx
    · cases hx
    · cases hx
  · rintro ⟨cause, hoffends, rfl⟩
    cases hoffends with
    | sceneText head inline =>
      rw [head]
      exact readSceneLine_eq_error_iff.mpr ⟨inline, rfl⟩
    | characterText head inline =>
      rw [head]
      exact readCharacterLine_eq_error_iff.mpr ⟨inline, rfl⟩
    | choiceOutside head outside =>
      rw [head]
      exact readChoiceLine_eq_error_iff.mpr (.inl ⟨h.noScene.mpr outside, rfl⟩)
    | choiceTarget head inside bare =>
      rw [head]
      exact readChoiceLine_eq_error_iff.mpr (.inr ⟨h.scene.mpr inside, bare, rfl⟩)
    | emotionOutside head outside =>
      rw [head]
      exact readEmotionLine_eq_error_iff.mpr (.inl ⟨h.noCharacter.mpr outside, rfl⟩)
    | emotionPath head inside bare =>
      rw [head]
      exact readEmotionLine_eq_error_iff.mpr (.inr ⟨h.character.mpr inside, bare, rfl⟩)

/-! What is open -/

theorem isSome_openScene_startScene (d : Draft) (s : Scene) :
    (d.startScene s).openScene.isSome = true := by
  rcases hopen : d.openScene with _ | r
  · rw [startScene_of_none hopen]
    rfl
  · rw [startScene_of_some hopen]
    rfl

/-- Once something is declared it is open, and nothing but a declaration opens it. -/
theorem OpenAfter.step {above : List String} (h : OpenAfter d above)
    (hstep : d.step line = (e, none)) : OpenAfter e (above ++ [line]) := by
  have hadvance := advance_of_step hstep
  constructor
  · rcases hadvance.scene_half with ⟨s, hk, -, hf, -⟩ | ⟨s, c, hk, -, hs, -, hf, -⟩ |
      ⟨hk, -, hf, -⟩
    · rw [Keyword.heads_iff] at hk
      simp [hf, hk, isSome_openScene_startScene]
    · rw [← Bool.not_eq_true, Keyword.heads_iff] at hk
      simp [hf, hk, ← h.scene, hs]
    · rw [← Bool.not_eq_true, Keyword.heads_iff] at hk
      simp [hf, hk, ← h.scene]
  · rcases hadvance.character_half with ⟨c, hk, -, hf, -⟩ | ⟨c, entry, hk, -, hc, -, hf, -⟩ |
      ⟨hk, -, hf, -⟩
    · rw [Keyword.heads_iff] at hk
      simp [hf, hk]
    · rw [← Bool.not_eq_true, Keyword.heads_iff] at hk
      simp [hf, hk, ← h.character, hc]
    · rw [← Bool.not_eq_true, Keyword.heads_iff] at hk
      simp [hf, hk, ← h.character]

theorem OpenAfter.run {above : List String} {lines : List (Nat × String)} (h : OpenAfter d above)
    (hrun : d.run lines = (e, none)) : OpenAfter e (above ++ lines.map Prod.snd) := by
  induction lines generalizing d above with
  | nil =>
    cases hrun
    simpa using h
  | cons l lines ih =>
    obtain ⟨n, line⟩ := l
    obtain ⟨f, hstep, hrest⟩ := run_cons_eq_ok_iff.mp hrun
    have hf := ih (h.step hstep) hrest
    rwa [List.append_assoc, List.singleton_append] at hf

theorem openAfter_of_run {lines : List (Nat × String)}
    (hrun : ({} : Draft).run lines = (e, none)) : OpenAfter e (lines.map Prod.snd) := by
  have hnone : OpenAfter {} [] := ⟨by simp, by simp⟩
  exact hnone.run hrun

/-- A run does not fail if and only if no line offends. -/
theorem inoffensive_iff_run {lines : List (Nat × String)} :
    Inoffensive (lines.map Prod.snd) ↔ ∃ e, ({} : Draft).run lines = (e, none) := by
  constructor
  · intro h
    rcases hrun : ({} : Draft).run lines with ⟨e, _ | x⟩
    · exact ⟨e, rfl⟩
    · obtain ⟨above, below, n, line, f, y, rfl, habove, hlast, -⟩ :=
        run_eq_error_iff.mp (congrArg Prod.snd hrun)
      obtain ⟨cause, hoffends, -⟩ := (step_eq_error_iff (openAfter_of_run habove)).mp hlast
      exact absurd hoffends (h _ line (below.map Prod.snd) cause (by simp))
  · rintro ⟨e, hrun⟩ above line below cause hlines hoffends
    obtain ⟨above', rest, rfl, rfl, hrest⟩ := List.map_eq_append_iff.mp hlines
    obtain ⟨⟨n, line'⟩, below', rfl, rfl, rfl⟩ := List.map_eq_cons_iff.mp hrest
    obtain ⟨f, g, habove, hstep⟩ := step_of_run_ok hrun
    have hlast : (f.step line').2 = some { cause, line := line' } :=
      (step_eq_error_iff (openAfter_of_run habove)).mpr ⟨cause, hoffends, rfl⟩
    rw [hstep] at hlast
    cases hlast

end Draft

/-! The error of a parse -/

theorem parse_eq_error_iff_offends {script : String} {x : ScriptError} :
    parse script = .error x ↔
      ∃ (above below : List (Nat × String)) (n : Nat) (line : String) (cause : Cause),
        scriptLines script = above ++ (n, line) :: below ∧ Inoffensive (above.map Prod.snd) ∧
        Offends (above.map Prod.snd) line cause ∧ x = { cause, line, lineNumber := some n } := by
  rw [parse_eq_error_iff, Draft.run_eq_error_iff]
  constructor
  · rintro ⟨above, below, n, line, e, y, hlines, hrun, hlast, rfl⟩
    obtain ⟨cause, hoffends, rfl⟩ :=
      (Draft.step_eq_error_iff (Draft.openAfter_of_run hrun)).mp hlast
    exact ⟨above, below, n, line, cause, hlines, Draft.inoffensive_iff_run.mpr ⟨e, hrun⟩,
      hoffends, rfl⟩
  · rintro ⟨above, below, n, line, cause, hlines, hclean, hoffends, rfl⟩
    obtain ⟨e, hrun⟩ := Draft.inoffensive_iff_run.mp hclean
    refine ⟨above, below, n, line, e, { cause, line }, hlines, hrun, ?_, rfl⟩
    exact (Draft.step_eq_error_iff (Draft.openAfter_of_run hrun)).mpr ⟨cause, hoffends, rfl⟩

theorem exists_error_iff {script : String} :
    (∃ x, parse script = .error x) ↔ ¬ Inoffensive (statements script) := by
  rw [statements, Draft.inoffensive_iff_run]
  simp only [parse_eq_error_iff]
  rcases ({} : Draft).run (scriptLines script) with ⟨e, _ | x⟩
  · simp
  · simp

theorem exists_story_iff {script : String} :
    (∃ story, parse script = .ok story) ↔ Inoffensive (statements script) := by
  rw [← not_iff_not, ← exists_error_iff]
  cases parse script <;> simp

theorem not_inoffensive_iff {lines : List String} :
    ¬ Inoffensive lines ↔
      ∃ above line below cause, lines = above ++ line :: below ∧ Offends above line cause := by
  simp [Inoffensive]

/-- The message of an error on a line that is not blank names the line and shows it. -/
theorem message_of_numbered {cause : Cause} {line : String} {n : Nat} (hn : n ≠ 0)
    (hline : Text.isBlankText line.toList = false) :
    ({ cause, line, lineNumber := some n } : ScriptError).message =
      "line " ++ toString n ++ ": " ++ cause.reason ++
        (": '" ++ String.ofList (Text.trim line.toList) ++ "'") := by
  have hn' : ¬ (n : Int) = 0 := by omega
  have hempty : line.isEmpty = false := by
    rw [← Bool.not_eq_true, String.isEmpty_iff]
    rintro rfl
    simp [Text.isBlankText] at hline
  rw [ScriptError.message, ScriptError.location, ScriptError.excerpt, ScriptError.reason]
  simp only [hn', hempty]
  rfl

/-- An error stays the same when lines are added below. -/
theorem parse_append_of_error {script more : String} {x : ScriptError}
    (h : parse script = .error x) : parse (script ++ "\n" ++ more) = .error x := by
  obtain ⟨below, hlines⟩ :
      ∃ below, scriptLines (script ++ "\n" ++ more) = scriptLines script ++ below :=
    ⟨_, scriptLines_append script more⟩
  obtain ⟨above, rest, n, line, cause, hscript, hclean, hoffends, rfl⟩ :=
    parse_eq_error_iff_offends.mp h
  refine parse_eq_error_iff_offends.mpr ⟨above, rest ++ below, n, line, cause, ?_, hclean,
    hoffends, rfl⟩
  rw [hlines, hscript, List.append_assoc, List.cons_append]

/-- A parse fails if and only if a line offends, with the error of the first such line, whatever
lines are below it. The error names the line as it stands in the script. -/
theorem parse_fails_at_first_offence (script : String) :
    ((∃ x, parse script = .error x) ↔
      ∃ above line below cause,
        statements script = above ++ line :: below ∧ Offends above line cause) ∧
    (∀ x, parse script = .error x ↔
      ∃ (above below : List (Nat × String)) (n : Nat) (line : String) (cause : Cause),
        scriptLines script = above ++ (n, line) :: below ∧ Inoffensive (above.map Prod.snd) ∧
        Offends (above.map Prod.snd) line cause ∧ x = { cause, line, lineNumber := some n }) ∧
    (∀ x, parse script = .error x →
      ∃ n : Nat, x.lineNumber = some (n : Int) ∧
        Text.StandsAt script.toList n x.line.toList ∧
        x.message = "line " ++ toString n ++ ": " ++ x.cause.reason ++
          (": '" ++ String.ofList (Text.trim x.line.toList) ++ "'")) ∧
    (∀ x more, parse script = .error x → parse (script ++ "\n" ++ more) = .error x) := by
  refine ⟨?_, fun x => parse_eq_error_iff_offends, ?_, fun x more => parse_append_of_error⟩
  · rw [exists_error_iff, not_inoffensive_iff]
  · intro x h
    obtain ⟨above, below, n, line, cause, hlines, -, -, rfl⟩ := parse_eq_error_iff_offends.mp h
    have hmem : (n, line.toList) ∈ Text.numberedLines script.toList := by
      rw [← mem_scriptLines, hlines]
      simp
    have hstands := Text.standsAt_of_mem_numberedLines hmem
    have hn : n ≠ 0 := by
      obtain ⟨above, returns, below, -, -, -, -, -, -, hn⟩ := hstands
      omega
    exact ⟨n, rfl, hstands, message_of_numbered hn (Text.isLine_of_mem_numberedLines hmem).notBlank⟩

/-- A script with a blank line above its first offending line and another one below it. -/
def offendingScript : String :=
  "scene a:\n\n    choice: Go\r\nscene b: text"

/-- The error of `offendingScript`. -/
def offendingScriptError : ScriptError :=
  { cause := .choiceWithoutTarget, line := "    choice: Go", lineNumber := some 3 }

set_option maxRecDepth 4000 in
theorem offendingScript_fails_at_third_line :
    parse offendingScript = .error offendingScriptError ∧
      (∃ n : Nat, offendingScriptError.lineNumber = some (n : Int) ∧
        Text.StandsAt offendingScript.toList n offendingScriptError.line.toList ∧
        offendingScriptError.message = "line " ++ toString n ++ ": " ++
          offendingScriptError.cause.reason ++
            (": '" ++ String.ofList (Text.trim offendingScriptError.line.toList) ++ "'")) ∧
      ∀ more, parse (offendingScript ++ "\n" ++ more) = .error offendingScriptError := by
  have h : parse offendingScript = .error offendingScriptError := by rfl
  obtain ⟨-, -, place, below⟩ := parse_fails_at_first_offence offendingScript
  exact ⟨h, place _ h, fun more => below _ more h⟩

end SceneScript
