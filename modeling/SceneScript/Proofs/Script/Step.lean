import SceneScript.Proofs.Text.Numbering
import SceneScript.Script.Parse

set_option autoImplicit false
set_option relaxedAutoImplicit false

/-!
# Steps and runs of a draft

Everything that a line can do to a draft, said once. `Draft.Advance` lists the ways in which a line
is taken, `Draft.advance_of_step` says that there are no others, and the run lemmas divide a run at
a line or at its error. `parse_eq_ok_iff` and `parse_eq_error_iff` say what a parse has to do with
the run over the numbered lines.
-/

namespace SceneScript

/-! Statements -/

/-- Whether a line is the statement of a keyword. -/
def Keyword.heads (k : Keyword) (line : String) : Bool :=
  Keyword.ofLine? line == some k

theorem Keyword.heads_iff {k : Keyword} {line : String} :
    k.heads line = true ↔ Keyword.ofLine? line = some k := by
  rw [Keyword.heads, beq_iff_eq]

theorem Keyword.heads_of_ofLine? {k l : Keyword} {line : String}
    (h : Keyword.ofLine? line = some l) : k.heads line = decide (l = k) := by
  rw [Keyword.heads, h]
  by_cases hlk : l = k <;> simp [hlk]

/-- What a scene line declares if it can be read. -/
theorem eq_of_sceneOfLine {line : String} {s : Scene} (h : Scene.ofLine line = .ok s) :
    hasInlineText line = false ∧
      s = { label := String.ofList (dropColons (splitParameter (Text.word 1 line.toList)).1)
            condition := (splitParameter (Text.word 1 line.toList)).2.map String.ofList
            next := nonEmpty? (dropColons (Text.word 3 line.toList)) } := by
  rw [Scene.ofLine] at h
  split at h
  · cases h
  · rename_i hinline
    exact ⟨Bool.not_eq_true _ ▸ hinline, (Except.ok.inj h).symm⟩

/-- The lines of a script that are not blank, in order and without their numbers. -/
def statements (script : String) : List String :=
  (scriptLines script).map Prod.snd

namespace Draft

variable {d e : Draft} {line : String}

/-! Steps -/

/-- The ways in which a line is taken, each with the draft after it. -/
inductive Advance (d : Draft) (line : String) : Draft -> Prop
  | character {c : Character} (head : Keyword.ofLine? line = some .character)
      (read : Character.ofLine line = .ok c) :
      Advance d line { d.finishCharacter with openCharacter := some c }
  | emotion {c : Character} {entry : EmotionEntry} (head : Keyword.ofLine? line = some .emotion)
      (opened : d.openCharacter = some c) (read : EmotionEntry.ofLine line = .ok entry) :
      Advance d line { d with openCharacter := some (c.setEmotion entry) }
  | scene {s : Scene} (head : Keyword.ofLine? line = some .scene)
      (read : Scene.ofLine line = .ok s) : Advance d line (d.startScene s)
  | choice {s : Scene} {c : Choice} (head : Keyword.ofLine? line = some .choice)
      (opened : d.openScene = some s) (read : Choice.ofLine line = .ok c) :
      Advance d line { d with openScene := some (s.addChoice c) }
  | inert (head : ∀ k, Keyword.ofLine? line = some k → k = .endingScene ∨ k = .useEmotion) :
      Advance d line d

theorem startScene_of_none (h : d.openScene = none) (s : Scene) :
    d.startScene s = { d with openScene := some s } := by
  rw [startScene, h]

theorem startScene_of_some {r : Scene} (h : d.openScene = some r) (s : Scene) :
    d.startScene s =
      { d with
        openScene := some { s with previous := some r.label }
        scenes := d.scenes ++ [chainTo s.label r] } := by
  rw [startScene, h]

theorem heads_of_inert {k : Keyword}
    (head : ∀ l, Keyword.ofLine? line = some l → l = .endingScene ∨ l = .useEmotion)
    (hending : k ≠ .endingScene) (huse : k ≠ .useEmotion) : k.heads line = false := by
  rw [← Bool.not_eq_true, Keyword.heads_iff]
  intro hk
  rcases head k hk with h | h
  · exact hending h
  · exact huse h

theorem readEmotion_eq_ok {c : Character} {entry : EmotionEntry} {o : Option Character}
    (h : readEmotion line o = .ok (entry, c)) :
    ∃ b, o = some b ∧ EmotionEntry.ofLine line = .ok entry ∧ c = b.setEmotion entry := by
  cases o with
  | none => simp [readEmotion] at h
  | some b =>
    simp only [readEmotion] at h
    split at h
    · cases h
    · rename_i hread
      cases h
      exact ⟨b, rfl, hread, rfl⟩

theorem readChoice_eq_ok {s : Scene} {c : Choice} {o : Option Scene}
    (h : readChoice line o = .ok (c, s)) :
    ∃ r, o = some r ∧ Choice.ofLine line = .ok c ∧ s = r.addChoice c := by
  cases o with
  | none => simp [readChoice] at h
  | some r =>
    simp only [readChoice] at h
    split at h
    · cases h
    · rename_i hread
      cases h
      exact ⟨r, rfl, hread, rfl⟩

/-- A line that does not fail is taken in one of the listed ways. -/
theorem advance_of_step (h : d.step line = (e, none)) : Advance d line e := by
  rw [step] at h
  split at h
  · rename_i head
    rw [readCharacterLine] at h
    split at h
    · cases h
    · rename_i read
      cases h
      exact .character head read
  · rename_i head
    rw [readEmotionLine] at h
    split at h
    · cases h
    · rename_i read
      cases h
      obtain ⟨c, opened, hentry, rfl⟩ := readEmotion_eq_ok read
      exact .emotion head opened hentry
  · rename_i head
    rw [readSceneLine] at h
    split at h
    · cases h
    · rename_i read
      cases h
      exact .scene head read
  · rename_i head
    rw [readChoiceLine] at h
    split at h
    · cases h
    · rename_i read
      cases h
      obtain ⟨s, opened, hchoice, rfl⟩ := readChoice_eq_ok read
      exact .choice head opened hchoice
  · rename_i head
    cases h
    exact .inert (fun k hk => .inl (Option.some.inj (hk.symm.trans head)))
  · rename_i head
    cases h
    exact .inert (fun k hk => .inr (Option.some.inj (hk.symm.trans head)))
  · rename_i head
    cases h
    exact .inert (fun k hk => by simp [head] at hk)

/-- A line that fails changes nothing, except that a character line has finished the open
character before. -/
theorem eq_of_step_error {x : ScriptError} (h : d.step line = (e, some x)) :
    e = if Keyword.character.heads line then d.finishCharacter else d := by
  rw [step] at h
  split at h
  · rename_i head
    rw [readCharacterLine] at h
    rw [Keyword.heads_of_ofLine? head]
    split at h <;> cases h
    rfl
  · rename_i head
    rw [readEmotionLine] at h
    rw [Keyword.heads_of_ofLine? head]
    split at h <;> cases h
    rfl
  · rename_i head
    rw [readSceneLine] at h
    rw [Keyword.heads_of_ofLine? head]
    split at h <;> cases h
    rfl
  · rename_i head
    rw [readChoiceLine] at h
    rw [Keyword.heads_of_ofLine? head]
    split at h <;> cases h
    rfl
  · cases h
  · cases h
  · cases h

/-! Halves of a step -/

/-- What a taken line does to the scenes of a draft. -/
theorem Advance.scene_half (h : Advance d line e) :
    (∃ s, Keyword.scene.heads line = true ∧ Scene.ofLine line = .ok s ∧
      e.openScene = (d.startScene s).openScene ∧ e.scenes = (d.startScene s).scenes) ∨
    (∃ s c, Keyword.scene.heads line = false ∧ Keyword.choice.heads line = true ∧
      d.openScene = some s ∧ Choice.ofLine line = .ok c ∧
      e.openScene = some (s.addChoice c) ∧ e.scenes = d.scenes) ∨
    (Keyword.scene.heads line = false ∧ Keyword.choice.heads line = false ∧
      e.openScene = d.openScene ∧ e.scenes = d.scenes) := by
  cases h with
  | character head read =>
    exact .inr (.inr ⟨Keyword.heads_of_ofLine? head, Keyword.heads_of_ofLine? head, rfl, rfl⟩)
  | emotion head opened read =>
    exact .inr (.inr ⟨Keyword.heads_of_ofLine? head, Keyword.heads_of_ofLine? head, rfl, rfl⟩)
  | scene head read =>
    exact .inl ⟨_, Keyword.heads_of_ofLine? head, read, rfl, rfl⟩
  | choice head opened read =>
    exact .inr (.inl ⟨_, _, Keyword.heads_of_ofLine? head, Keyword.heads_of_ofLine? head, opened,
      read, rfl, rfl⟩)
  | inert head =>
    exact .inr (.inr ⟨heads_of_inert head (by simp) (by simp),
      heads_of_inert head (by simp) (by simp), rfl, rfl⟩)

/-- What a taken line does to the characters of a draft. -/
theorem Advance.character_half (h : Advance d line e) :
    (∃ c, Keyword.character.heads line = true ∧ Character.ofLine line = .ok c ∧
      e.openCharacter = some c ∧ e.characters = d.characters ++ d.openCharacter.toList) ∨
    (∃ c entry, Keyword.character.heads line = false ∧ Keyword.emotion.heads line = true ∧
      d.openCharacter = some c ∧ EmotionEntry.ofLine line = .ok entry ∧
      e.openCharacter = some (c.setEmotion entry) ∧ e.characters = d.characters) ∨
    (Keyword.character.heads line = false ∧ Keyword.emotion.heads line = false ∧
      e.openCharacter = d.openCharacter ∧ e.characters = d.characters) := by
  cases h with
  | character head read =>
    exact .inl ⟨_, Keyword.heads_of_ofLine? head, read, rfl, rfl⟩
  | emotion head opened read =>
    exact .inr (.inl ⟨_, _, Keyword.heads_of_ofLine? head, Keyword.heads_of_ofLine? head, opened,
      read, rfl, rfl⟩)
  | @scene s head read =>
    refine .inr (.inr ⟨Keyword.heads_of_ofLine? head, Keyword.heads_of_ofLine? head, ?_, ?_⟩) <;>
      rw [startScene] <;> split <;> rfl
  | choice head opened read =>
    exact .inr (.inr ⟨Keyword.heads_of_ofLine? head, Keyword.heads_of_ofLine? head, rfl, rfl⟩)
  | inert head =>
    exact .inr (.inr ⟨heads_of_inert head (by simp) (by simp),
      heads_of_inert head (by simp) (by simp), rfl, rfl⟩)

/-! Runs -/

/-- The draft after some lines, the ones that fail included: the next line is applied to whatever
they leave. -/
def applyAll (d : Draft) (lines : List String) : Draft :=
  lines.foldl (fun e line => (e.step line).1) d

theorem applyAll_append (d : Draft) (above below : List String) :
    d.applyAll (above ++ below) = (d.applyAll above).applyAll below :=
  List.foldl_append

theorem run_cons_ok {n : Nat} {rest : List (Nat × String)} (h : d.step line = (e, none)) :
    d.run ((n, line) :: rest) = e.run rest := by
  rw [run, h]

theorem run_cons_error {n : Nat} {rest : List (Nat × String)} {x : ScriptError}
    (h : d.step line = (e, some x)) : d.run ((n, line) :: rest) = (e, some (x.atLine n)) := by
  rw [run, h]

/-- A run that does not fail takes its first line, and then the others. -/
theorem run_cons_eq_ok_iff {n : Nat} {rest : List (Nat × String)} :
    d.run ((n, line) :: rest) = (e, none) ↔
      ∃ f, d.step line = (f, none) ∧ f.run rest = (e, none) := by
  rcases hstep : d.step line with ⟨f, _ | x⟩
  · rw [run_cons_ok hstep]
    simp
  · rw [run_cons_error hstep]
    simp

/-- A run that does not fail on some lines goes on with the lines after them. -/
theorem run_append {above : List (Nat × String)} (h : d.run above = (e, none))
    (below : List (Nat × String)) : d.run (above ++ below) = e.run below := by
  induction above generalizing d with
  | nil =>
    cases h
    rfl
  | cons l above ih =>
    obtain ⟨n, line⟩ := l
    obtain ⟨f, hstep, h⟩ := run_cons_eq_ok_iff.mp h
    rw [List.cons_append, run_cons_ok hstep]
    exact ih h

theorem applyAll_of_run {lines : List (Nat × String)} (h : d.run lines = (e, none)) :
    d.applyAll (lines.map Prod.snd) = e := by
  induction lines generalizing d with
  | nil =>
    cases h
    rfl
  | cons l lines ih =>
    obtain ⟨n, line⟩ := l
    obtain ⟨f, hstep, h⟩ := run_cons_eq_ok_iff.mp h
    rw [← ih h, applyAll, applyAll, List.map_cons, List.foldl_cons, hstep]

/-- A failed run has the error of the line at which the run stops; all lines above that one are
taken. -/
theorem run_eq_error_iff {lines : List (Nat × String)} {x : ScriptError} :
    (d.run lines).2 = some x ↔
      ∃ (above below : List (Nat × String)) (n : Nat) (line : String) (e : Draft) (y : ScriptError),
        lines = above ++ (n, line) :: below ∧ d.run above = (e, none) ∧
          (e.step line).2 = some y ∧ x = y.atLine n := by
  constructor
  · intro h
    induction lines generalizing d with
    | nil => cases h
    | cons l lines ih =>
      obtain ⟨n, line⟩ := l
      rcases hstep : d.step line with ⟨f, _ | y⟩
      · rw [run_cons_ok hstep] at h
        obtain ⟨above, below, m, line', e, y, rfl, hrun, hlast, rfl⟩ := ih h
        refine ⟨(n, line) :: above, below, m, line', e, y, rfl, ?_, hlast, rfl⟩
        rw [run_cons_ok hstep, hrun]
      · rw [run_cons_error hstep] at h
        cases h
        exact ⟨[], lines, n, line, d, y, rfl, rfl, by rw [hstep], rfl⟩
  · rintro ⟨above, below, n, line, e, y, rfl, hrun, hlast, rfl⟩
    rw [run_append hrun, run_cons_error (Prod.ext rfl hlast)]

/-- Each line of a run that does not fail is taken by the draft that the lines above it make. -/
theorem step_of_run_ok {above below : List (Nat × String)} {n : Nat}
    (h : d.run (above ++ (n, line) :: below) = (e, none)) :
    ∃ f g, d.run above = (f, none) ∧ f.step line = (g, none) := by
  rcases habove : d.run above with ⟨f, _ | x⟩
  · rw [run_append habove] at h
    obtain ⟨g, hstep, -⟩ := run_cons_eq_ok_iff.mp h
    exact ⟨f, g, rfl, hstep⟩
  · obtain ⟨left, right, m, line', g, y, rfl, hrun, hlast, rfl⟩ :=
      run_eq_error_iff.mp (congrArg Prod.snd habove)
    rw [List.append_assoc, List.cons_append, run_append hrun,
      run_cons_error (Prod.ext rfl hlast)] at h
    cases h

end Draft

/-! Parses -/

theorem parse_eq_ok_iff {script : String} {story : Story} :
    parse script = .ok story ↔
      ∃ d, ({} : Draft).run (scriptLines script) = (d, none) ∧ story = d.finish.story := by
  rw [parse]
  split
  · rename_i hrun
    simp [hrun]
  · rename_i d hrun
    constructor
    · intro h
      exact ⟨d, hrun, (Except.ok.inj h).symm⟩
    · rintro ⟨e, he, rfl⟩
      rw [hrun] at he
      cases he
      rfl

theorem parse_eq_error_iff {script : String} {x : ScriptError} :
    parse script = .error x ↔ (({} : Draft).run (scriptLines script)).2 = some x := by
  rw [parse]
  split
  · rename_i hrun
    simp [hrun]
  · rename_i hrun
    simp [hrun]

/-! Lines of a script -/

theorem mem_scriptLines {script line : String} {n : Nat} :
    (n, line) ∈ scriptLines script ↔ (n, line.toList) ∈ Text.numberedLines script.toList := by
  rw [scriptLines, List.mem_map]
  constructor
  · rintro ⟨⟨m, cs⟩, hmem, heq⟩
    obtain ⟨rfl, rfl⟩ := Prod.mk.inj heq
    rwa [String.toList_ofList]
  · intro h
    exact ⟨(n, line.toList), h, by rw [String.ofList_toList]⟩

theorem isLine_of_mem_statements {script line : String} (h : line ∈ statements script) :
    Text.IsLine line.toList := by
  obtain ⟨⟨n, l⟩, hmem, rfl⟩ := List.mem_map.mp h
  exact Text.isLine_of_mem_numberedLines (mem_scriptLines.mp hmem)

/-- Numbers go up from line to line. -/
theorem pairwise_scriptLines (script : String) :
    (scriptLines script).Pairwise (fun a b => a.1 < b.1) := by
  rw [scriptLines, List.pairwise_map]
  exact Text.pairwise_numberFrom 1 _

theorem scriptLines_of_numberedLines {script : String} {lines : List String}
    (h : Text.numberedLines script.toList =
      ((lines.map String.toList).zipIdx 1).map Prod.swap) :
    scriptLines script = (lines.zipIdx 1).map Prod.swap := by
  rw [scriptLines, h, List.zipIdx_map, List.map_map, List.map_map]
  apply List.map_congr_left
  rintro ⟨line, n⟩ -
  simp

theorem isLine_of_mem_map {lines : List String} (h : ∀ l ∈ lines, Text.IsLine l.toList) :
    ∀ l ∈ lines.map String.toList, Text.IsLine l := by
  intro l hl
  obtain ⟨line, hline, rfl⟩ := List.mem_map.mp hl
  exact h line hline

/-- Lines that are joined by line feeds make a script with these lines. -/
theorem scriptLines_intercalate {lines : List String} (h : ∀ l ∈ lines, Text.IsLine l.toList) :
    scriptLines ("\n".intercalate lines) = (lines.zipIdx 1).map Prod.swap := by
  have htext : ("\n".intercalate lines).toList = ['\n'].intercalate (lines.map String.toList) := by
    rw [String.toList_intercalate]
    rfl
  apply scriptLines_of_numberedLines
  rw [htext, Text.numberedLines_intercalate (isLine_of_mem_map h)]

/-- Lines that each end in a line feed make a script with these lines. -/
theorem scriptLines_join {lines : List String} (h : ∀ l ∈ lines, Text.IsLine l.toList) :
    scriptLines (String.join (lines.map (fun line => line ++ "\n"))) =
      (lines.zipIdx 1).map Prod.swap := by
  have htext : (String.join (lines.map (fun line => line ++ "\n"))).toList =
      (lines.map String.toList).flatMap (fun l => l ++ ['\n']) := by
    rw [String.toList_join, List.flatMap_map, List.flatMap_map]
    simp [String.toList_append]
  apply scriptLines_of_numberedLines
  rw [htext, Text.numberedLines_flatMap (isLine_of_mem_map h)]

theorem statements_eq_map (script : String) :
    statements script =
      ((Text.lines script.toList).filter (fun l => !Text.isBlankText l)).map String.ofList := by
  rw [statements, scriptLines, List.map_map, ← Text.map_snd_numberFrom 1, List.map_map]
  rfl

theorem toList_append_lineFeed (script more : String) :
    (script ++ "\n" ++ more).toList = script.toList ++ '\n' :: more.toList := by
  simp [String.toList_append]

/-- The statements of a script below another come after those of the other. -/
theorem statements_append (script more : String) :
    statements (script ++ "\n" ++ more) = statements script ++ statements more := by
  rw [statements_eq_map, toList_append_lineFeed, Text.lines_append, List.filter_append,
    List.map_append, ← statements_eq_map, ← statements_eq_map]

/-- The lines below another script come after its lines, and their numbers go on from there. -/
theorem scriptLines_append (script more : String) :
    scriptLines (script ++ "\n" ++ more) =
      scriptLines script ++
        (scriptLines more).map (fun l => (l.1 + (1 + script.toList.count '\n'), l.2)) := by
  rw [scriptLines, toList_append_lineFeed, Text.numberedLines_append, List.map_append, scriptLines,
    scriptLines, List.map_map, List.map_map]
  rfl

end SceneScript
