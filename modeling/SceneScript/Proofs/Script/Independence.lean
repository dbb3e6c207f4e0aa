import SceneScript.Proofs.Script.Offence

set_option autoImplicit false
set_option relaxedAutoImplicit false

/-!
# Scenes and characters are independent

A draft has two halves, and each line reads and writes at most one of them: `Draft.IsHalf`. So a run
over all lines does to a half what a run over that half's lines does. Main statement:
`parse_by_halves` compares the parse of a script with the parses of two extracts from it, the lines
about scenes and those about characters.
-/

namespace SceneScript

/-- Whether a line declares a scene or gives it a choice. -/
def concernsScenes (line : String) : Bool :=
  Keyword.scene.heads line || Keyword.choice.heads line

/-- Whether a line declares a character or gives it an emotion. -/
def concernsCharacters (line : String) : Bool :=
  Keyword.character.heads line || Keyword.emotion.heads line

/-- Whether a line has a part in any block. -/
def concernsBlocks (line : String) : Bool :=
  concernsScenes line || concernsCharacters line

/-- The script of those statements of a script that a test holds of, one on each line. -/
def extract (concerns : String -> Bool) (script : String) : String :=
  "\n".intercalate ((statements script).filter concerns)

/-- An error of the extract from a script is on the `n`-th line of the script itself. -/
def IsOnLine (concerns : String -> Bool) (script : String) (x : ScriptError) (n : Nat) : Prop :=
  ∃ i : Nat, x.lineNumber = some ((i + 1 : Nat) : Int) ∧
    ((scriptLines script).filter (fun l => concerns l.2))[i]? = some (n, x.line)

/-- An extract from a script fails with an error that is `x` when it gets its line number in the
script, and if the extract of the other lines fails too, it does so further below. -/
def FailsFirst (concerns others : String -> Bool) (script : String) (x : ScriptError) : Prop :=
  ∃ (n : Nat) (y : ScriptError), parse (extract concerns script) = .error y ∧
    IsOnLine concerns script y n ∧ x = y.atLine n ∧
    ∀ z, parse (extract others script) = .error z → ∃ m, IsOnLine others script z m ∧ n < m

theorem concernsScenes_iff {line : String} :
    concernsScenes line = true ↔
      Keyword.ofLine? line = some .scene ∨ Keyword.ofLine? line = some .choice := by
  rw [concernsScenes, Bool.or_eq_true, Keyword.heads_iff, Keyword.heads_iff]

theorem concernsCharacters_iff {line : String} :
    concernsCharacters line = true ↔
      Keyword.ofLine? line = some .character ∨ Keyword.ofLine? line = some .emotion := by
  rw [concernsCharacters, Bool.or_eq_true, Keyword.heads_iff, Keyword.heads_iff]

/-! Extracts -/

theorem scriptLines_extract (concerns : String -> Bool) (script : String) :
    scriptLines (extract concerns script) =
      (((statements script).filter concerns).zipIdx 1).map Prod.swap :=
  scriptLines_intercalate (fun _ hl => isLine_of_mem_statements (List.mem_of_mem_filter hl))

theorem statements_extract (concerns : String -> Bool) (script : String) :
    statements (extract concerns script) = (statements script).filter concerns := by
  rw [statements, scriptLines_extract, List.map_map]
  exact List.zipIdx_map_fst 1 _

theorem number_in_extract {concerns : String -> Bool} {script line : String} {n : Nat}
    {above below : List (Nat × String)}
    (h : scriptLines (extract concerns script) = above ++ (n, line) :: below) :
    n = above.length + 1 := by
  have hget : (scriptLines (extract concerns script))[above.length]? = some (n, line) := by
    rw [h]
    simp
  rw [scriptLines_extract, List.getElem?_map, List.getElem?_zipIdx] at hget
  obtain ⟨⟨text, m⟩, hmem, heq⟩ := Option.map_eq_some_iff.mp hget
  obtain ⟨text', -, hpair⟩ := Option.map_eq_some_iff.mp hmem
  obtain ⟨rfl, rfl⟩ := Prod.mk.inj hpair
  obtain ⟨rfl, -⟩ := Prod.mk.inj heq
  omega

theorem map_snd_filter (concerns : String -> Bool) (lines : List (Nat × String)) :
    (lines.filter (fun l => concerns l.2)).map Prod.snd =
      (lines.map Prod.snd).filter concerns := by
  rw [List.filter_map]
  rfl

theorem length_of_kept {concerns : String -> Bool} {lines kept : List (Nat × String)}
    (h : kept.map Prod.snd = (lines.map Prod.snd).filter concerns) :
    kept.length = (lines.filter (fun l => concerns l.2)).length := by
  rw [← List.length_map Prod.snd, h, ← map_snd_filter, List.length_map]

namespace Draft

variable {d e : Draft} {line : String}

/-! Halves -/

/-- The open scene and the finished ones. -/
def sceneHalf (d : Draft) : Option Scene × List Scene :=
  (d.openScene, d.scenes)

/-- The open character and the finished ones. -/
def characterHalf (d : Draft) : Option Character × List Character :=
  (d.openCharacter, d.characters)

/-- A view of a draft is a half for some lines: what these do to it and whether they fail depends on
the view alone, and other lines leave it as it is. -/
structure IsHalf {α : Type} (view : Draft -> α) (concerns : String -> Bool) : Prop where
  reads {c d : Draft} {line : String} : concerns line = true → view c = view d →
    (c.step line).2 = (d.step line).2 ∧ view (c.step line).1 = view (d.step line).1
  frame {d : Draft} {line : String} : concerns line = false → view (d.step line).1 = view d

theorem sceneHalf_startScene {c : Draft} (h : c.sceneHalf = d.sceneHalf) (s : Scene) :
    (c.startScene s).sceneHalf = (d.startScene s).sceneHalf := by
  obtain ⟨hopen, hscenes⟩ := Prod.mk.inj h
  rcases hd : d.openScene with _ | r
  · rw [startScene_of_none hd, startScene_of_none (hopen.trans hd), sceneHalf, sceneHalf, hscenes]
  · rw [startScene_of_some hd, startScene_of_some (hopen.trans hd), sceneHalf, sceneHalf, hscenes]

theorem characterHalf_startScene (d : Draft) (s : Scene) :
    (d.startScene s).characterHalf = d.characterHalf := by
  rcases hd : d.openScene with _ | r
  · rw [startScene_of_none hd, characterHalf, characterHalf]
  · rw [startScene_of_some hd, characterHalf, characterHalf]

theorem sceneHalf_readSceneLine (d : Draft) (line : String) {c : Draft}
    (h : c.sceneHalf = d.sceneHalf) :
    (c.readSceneLine line).2 = (d.readSceneLine line).2 ∧
      (c.readSceneLine line).1.sceneHalf = (d.readSceneLine line).1.sceneHalf := by
  rw [readSceneLine, readSceneLine]
  cases Scene.ofLine line with
  | error x => exact ⟨rfl, h⟩
  | ok s => exact ⟨rfl, sceneHalf_startScene h s⟩

theorem sceneHalf_readChoiceLine (d : Draft) (line : String) {c : Draft}
    (h : c.sceneHalf = d.sceneHalf) :
    (c.readChoiceLine line).2 = (d.readChoiceLine line).2 ∧
      (c.readChoiceLine line).1.sceneHalf = (d.readChoiceLine line).1.sceneHalf := by
  obtain ⟨hopen, hscenes⟩ := Prod.mk.inj h
  rw [readChoiceLine, readChoiceLine, hopen]
  cases readChoice line d.openScene with
  | error x => exact ⟨rfl, h⟩
  | ok read => exact ⟨rfl, by rw [sceneHalf, sceneHalf, hscenes]⟩

theorem characterHalf_readCharacterLine (d : Draft) (line : String) {c : Draft}
    (h : c.characterHalf = d.characterHalf) :
    (c.readCharacterLine line).2 = (d.readCharacterLine line).2 ∧
      (c.readCharacterLine line).1.characterHalf =
        (d.readCharacterLine line).1.characterHalf := by
  obtain ⟨hopen, hcharacters⟩ := Prod.mk.inj h
  rw [readCharacterLine, readCharacterLine]
  cases Character.ofLine line with
  | error x => exact ⟨rfl, by simp [characterHalf, finishCharacter, hopen, hcharacters]⟩
  | ok c => exact ⟨rfl, by simp [characterHalf, finishCharacter, hopen, hcharacters]⟩

theorem characterHalf_readEmotionLine (d : Draft) (line : String) {c : Draft}
    (h : c.characterHalf = d.characterHalf) :
    (c.readEmotionLine line).2 = (d.readEmotionLine line).2 ∧
      (c.readEmotionLine line).1.characterHalf = (d.readEmotionLine line).1.characterHalf := by
  obtain ⟨hopen, hcharacters⟩ := Prod.mk.inj h
  rw [readEmotionLine, readEmotionLine, hopen]
  cases readEmotion line d.openCharacter with
  | error x => exact ⟨rfl, h⟩
  | ok read => exact ⟨rfl, by rw [characterHalf, characterHalf, hcharacters]⟩

theorem characterHalf_readSceneLine (d : Draft) (line : String) :
    (d.readSceneLine line).1.characterHalf = d.characterHalf := by
  rw [readSceneLine]
  cases Scene.ofLine line with
  | error x => rfl
  | ok s => exact characterHalf_startScene d s

theorem characterHalf_readChoiceLine (d : Draft) (line : String) :
    (d.readChoiceLine line).1.characterHalf = d.characterHalf := by
  rw [readChoiceLine]
  cases readChoice line d.openScene <;> rfl

theorem sceneHalf_readCharacterLine (d : Draft) (line : String) :
    (d.readCharacterLine line).1.sceneHalf = d.sceneHalf := by
  rw [readCharacterLine]
  cases Character.ofLine line <;> rfl

theorem sceneHalf_readEmotionLine (d : Draft) (line : String) :
    (d.readEmotionLine line).1.sceneHalf = d.sceneHalf := by
  rw [readEmotionLine]
  cases readEmotion line d.openCharacter <;> rfl

theorem isHalf_id : IsHalf id concernsBlocks where
  reads {c d line} _ h := by
    obtain rfl : c = d := h
    exact ⟨rfl, rfl⟩
  frame {d line} hline := by
    rw [concernsBlocks, Bool.or_eq_false_iff, ← Bool.not_eq_true, ← Bool.not_eq_true,
      concernsScenes_iff, concernsCharacters_iff, not_or, not_or] at hline
    obtain ⟨⟨hscene, hchoice⟩, hcharacter, hemotion⟩ := hline
    rw [step]
    split
    · exact absurd ‹_› hcharacter
    · exact absurd ‹_› hemotion
    · exact absurd ‹_› hscene
    · exact absurd ‹_› hchoice
    · rfl
    · rfl
    · rfl

theorem isHalf_sceneHalf : IsHalf sceneHalf concernsScenes where
  reads {c d line} hline h := by
    rcases concernsScenes_iff.mp hline with head | head
    · rw [step, step, head]
      exact sceneHalf_readSceneLine d line h
    · rw [step, step, head]
      exact sceneHalf_readChoiceLine d line h
  frame {d line} hline := by
    rw [← Bool.not_eq_true, concernsScenes_iff, not_or] at hline
    rw [step]
    split
    · exact sceneHalf_readCharacterLine d line
    · exact sceneHalf_readEmotionLine d line
    · exact absurd ‹_› hline.1
    · exact absurd ‹_› hline.2
    · rfl
    · rfl
    · rfl

theorem isHalf_characterHalf : IsHalf characterHalf concernsCharacters where
  reads {c d line} hline h := by
    rcases concernsCharacters_iff.mp hline with head | head
    · rw [step, step, head]
      exact characterHalf_readCharacterLine d line h
    · rw [step, step, head]
      exact characterHalf_readEmotionLine d line h
  frame {d line} hline := by
    rw [← Bool.not_eq_true, concernsCharacters_iff, not_or] at hline
    rw [step]
    split
    · exact absurd ‹_› hline.1
    · exact absurd ‹_› hline.2
    · exact characterHalf_readSceneLine d line
    · exact characterHalf_readChoiceLine d line
    · rfl
    · rfl
    · rfl

theorem concernsBlocks_of_step_error {x : ScriptError} (h : (d.step line).2 = some x) :
    concernsBlocks line = true := by
  rw [concernsBlocks, Bool.or_eq_true, concernsScenes_iff, concernsCharacters_iff]
  rw [step] at h
  split at h
  · exact .inr (.inl ‹_›)
  · exact .inr (.inr ‹_›)
  · exact .inl (.inl ‹_›)
  · exact .inl (.inr ‹_›)
  · cases h
  · cases h
  · cases h

/-! Runs over the lines of one half -/

variable {α : Type} {view : Draft -> α} {concerns : String -> Bool} {c : Draft}
  {lines kept : List (Nat × String)}

/-- A run over the lines of a half, whatever their numbers, does to the half what the run over all
lines does. -/
theorem IsHalf.run (half : IsHalf view concerns)
    (hkept : kept.map Prod.snd = (lines.map Prod.snd).filter concerns) (hview : view c = view d)
    (hrun : d.run lines = (e, none)) : ∃ f, c.run kept = (f, none) ∧ view f = view e := by
  induction lines generalizing kept c d with
  | nil =>
    cases hrun
    obtain rfl : kept = [] := by simpa using hkept
    exact ⟨c, rfl, hview⟩
  | cons l lines ih =>
    obtain ⟨n, line⟩ := l
    obtain ⟨d', hstep, hrest⟩ := run_cons_eq_ok_iff.mp hrun
    by_cases hline : concerns line = true
    · rw [List.map_cons, List.filter_cons_of_pos hline] at hkept
      obtain ⟨⟨m, line'⟩, kept', rfl, rfl, hkept'⟩ := List.map_eq_cons_iff.mp hkept
      obtain ⟨herror, hnext⟩ := half.reads hline hview
      rw [hstep] at herror hnext
      obtain ⟨f, hf, hviewf⟩ := ih hkept' hnext hrest
      refine ⟨f, ?_, hviewf⟩
      rw [run_cons_ok (Prod.ext rfl herror), hf]
    · rw [List.map_cons, List.filter_cons_of_neg hline] at hkept
      have hframe : view d' = view d := by
        rw [← half.frame (d := d) (Bool.not_eq_true _ ▸ hline), hstep]
      exact ih hkept (hview.trans hframe.symm) hrest

/-- Lines of which none concerns a half leave it as it is. -/
theorem IsHalf.applyAll_frame (half : IsHalf view concerns) {lines : List String}
    (hlines : ∀ l ∈ lines, concerns l = false) : view (d.applyAll lines) = view d := by
  induction lines generalizing d with
  | nil => rfl
  | cons line lines ih =>
    obtain ⟨hline, hrest⟩ := List.forall_mem_cons.mp hlines
    exact (ih hrest).trans (half.frame hline)

theorem IsHalf.run_frame (half : IsHalf view concerns)
    (hlines : ∀ l ∈ lines, concerns l.2 = false) (hrun : d.run lines = (e, none)) :
    view e = view d := by
  rw [← applyAll_of_run hrun]
  apply half.applyAll_frame
  rw [List.forall_mem_map]
  exact hlines

section Errors

variable {script line : String} {above below : List (Nat × String)} {n : Nat}

/-- The extract of a half fails where the script fails on a line of that half. -/
theorem IsHalf.error_at (half : IsHalf view concerns) {x : ScriptError}
    (hlines : scriptLines script = above ++ (n, line) :: below)
    (hrun : ({} : Draft).run above = (e, none)) (hline : concerns line = true)
    (hstep : (e.step line).2 = some x) :
    ∃ y, parse (extract concerns script) = .error y ∧ IsOnLine concerns script y n ∧
      x.atLine n = y.atLine n := by
  have hkept : statements (extract concerns script) =
      (above.map Prod.snd).filter concerns ++ line :: (below.map Prod.snd).filter concerns := by
    rw [statements_extract, statements, hlines, List.map_append, List.filter_append, List.map_cons,
      List.filter_cons_of_pos hline]
  obtain ⟨left, rest, hextract, hleft, hrest⟩ := List.map_eq_append_iff.mp hkept
  obtain ⟨⟨m, line'⟩, right, rfl, hline', -⟩ := List.map_eq_cons_iff.mp hrest
  obtain rfl : line' = line := hline'
  obtain ⟨f, hf, hview⟩ := half.run hleft rfl hrun
  have hlast : (f.step line').2 = some x := (half.reads hline hview).1.trans hstep
  refine ⟨x.atLine m, ?_, ⟨left.length, ?_, ?_⟩, rfl⟩
  · exact parse_eq_error_iff.mpr (run_eq_error_iff.mpr
      ⟨left, right, m, line', f, x, hextract, hf, hlast, rfl⟩)
  · rw [ScriptError.atLine, number_in_extract hextract]
  · have hkeep : ((n, line') :: below).filter (fun l => concerns l.2) =
        (n, line') :: below.filter (fun l => concerns l.2) := List.filter_cons_of_pos hline
    rw [hlines, List.filter_append, hkeep, length_of_kept hleft, ScriptError.atLine,
      line_of_step_error hstep]
    simp

/-- If a script does not fail on some lines, the extract of a half does not fail on those that it has
of them. -/
theorem IsHalf.length_le_of_error (half : IsHalf view concerns)
    {left right : List (Nat × String)} {k : Nat} {f : Draft} {x : ScriptError}
    (hlines : scriptLines script = above ++ below) (hrun : ({} : Draft).run above = (e, none))
    (hextract : scriptLines (extract concerns script) = left ++ (k, line) :: right)
    (hleft : ({} : Draft).run left = (f, none)) (hlast : (f.step line).2 = some x) :
    (above.filter (fun l => concerns l.2)).length ≤ left.length := by
  have hkept : statements (extract concerns script) =
      (above.map Prod.snd).filter concerns ++ (below.map Prod.snd).filter concerns := by
    rw [statements_extract, statements, hlines, List.map_append, List.filter_append]
  obtain ⟨first, second, hsplit, hfirst, -⟩ := List.map_eq_append_iff.mp hkept
  obtain ⟨g, hg, -⟩ := half.run hfirst rfl hrun
  have hlength := length_of_kept hfirst
  rw [hextract] at hsplit
  rcases List.append_eq_append_iff.mp hsplit with ⟨mid, rfl, hmid⟩ | ⟨mid, rfl, -⟩
  · cases mid with
    | nil =>
      rw [List.append_nil] at hlength
      omega
    | cons l mid =>
      -- the line that fails would be one of those on which the extract does not fail
      obtain ⟨rfl, -⟩ := List.cons.inj hmid
      obtain ⟨f', g', hf', hstep⟩ := step_of_run_ok hg
      rw [hleft] at hf'
      cases hf'
      rw [hstep] at hlast
      cases hlast
  · rw [List.length_append]
    omega

/-- If the extract of a half fails, but the script does not fail above a line of the other half, it
fails below that line. -/
theorem IsHalf.error_below (half : IsHalf view concerns) {z : ScriptError}
    (hlines : scriptLines script = above ++ (n, line) :: below)
    (hrun : ({} : Draft).run above = (e, none)) (hline : concerns line = false)
    (hz : parse (extract concerns script) = .error z) :
    ∃ m, IsOnLine concerns script z m ∧ n < m := by
  obtain ⟨left, right, k, line', f, x, hextract, hleft, hlast, rfl⟩ :=
    run_eq_error_iff.mp (parse_eq_error_iff.mp hz)
  have hdrop : ((n, line) :: below).filter (fun l => concerns l.2) =
      below.filter (fun l => concerns l.2) := List.filter_cons_of_neg (by simp [hline])
  have hlate := half.length_le_of_error hlines hrun hextract hleft hlast
  have hget : (((scriptLines script).filter (fun l => concerns l.2))[left.length]?).map Prod.snd =
      some line' := by
    rw [← List.getElem?_map, map_snd_filter, ← statements, ← statements_extract, statements,
      hextract]
    simp
  obtain ⟨⟨m, text⟩, hm, htext⟩ := Option.map_eq_some_iff.mp hget
  obtain rfl : text = line' := htext
  refine ⟨m, ⟨left.length, ?_, ?_⟩, ?_⟩
  · rw [ScriptError.atLine, number_in_extract hextract]
  · rw [hm, ScriptError.atLine, line_of_step_error hlast]
  · rw [hlines, List.filter_append, hdrop, List.getElem?_append_right hlate] at hm
    have hmem : (m, text) ∈ below := List.mem_of_mem_filter (List.mem_of_getElem? hm)
    have hpairs := pairwise_scriptLines script
    rw [hlines, List.pairwise_append] at hpairs
    exact (List.pairwise_cons.mp hpairs.2.1).1 _ hmem

end Errors

end Draft

/-! Parses of the extracts -/

theorem disjoint_concerns {line : String} (h : concernsScenes line = true) :
    concernsCharacters line = false := by
  rw [← Bool.not_eq_true, concernsCharacters_iff]
  rcases concernsScenes_iff.mp h with head | head <;> simp [head]

theorem failsFirst_of_error {script : String} {x : ScriptError} (h : parse script = .error x) :
    FailsFirst concernsScenes concernsCharacters script x ∨
      FailsFirst concernsCharacters concernsScenes script x := by
  obtain ⟨above, below, n, line, e, y, hlines, hrun, hstep, rfl⟩ :=
    Draft.run_eq_error_iff.mp (parse_eq_error_iff.mp h)
  rcases Bool.or_eq_true_iff.mp (Draft.concernsBlocks_of_step_error hstep) with hline | hline
  · have hother := disjoint_concerns hline
    obtain ⟨z, hz, hon, hx⟩ := Draft.isHalf_sceneHalf.error_at hlines hrun hline hstep
    exact .inl ⟨n, z, hz, hon, hx,
      fun _ hw => Draft.isHalf_characterHalf.error_below hlines hrun hother hw⟩
  · have hother : concernsScenes line = false := by
      rw [← Bool.not_eq_true]
      intro hscene
      rw [disjoint_concerns hscene] at hline
      cases hline
    obtain ⟨z, hz, hon, hx⟩ := Draft.isHalf_characterHalf.error_at hlines hrun hline hstep
    exact .inr ⟨n, z, hz, hon, hx,
      fun _ hw => Draft.isHalf_sceneHalf.error_below hlines hrun hother hw⟩

theorem extracts_of_ok {script : String} {story : Story} (h : parse script = .ok story) :
    parse (extract concernsScenes script) = .ok { scenes := story.scenes, characters := [] } ∧
      parse (extract concernsCharacters script) =
        .ok { scenes := [], characters := story.characters } := by
  obtain ⟨d, hrun, rfl⟩ := parse_eq_ok_iff.mp h
  have hscenes := statements_extract concernsScenes script
  have hcharacters := statements_extract concernsCharacters script
  constructor
  · obtain ⟨e, he, hview⟩ := Draft.isHalf_sceneHalf.run hscenes rfl hrun
    have hframe : e.characterHalf = ({} : Draft).characterHalf := by
      refine Draft.isHalf_characterHalf.run_frame ?_ he
      intro l hl
      have hmem : l.2 ∈ statements (extract concernsScenes script) := List.mem_map_of_mem hl
      rw [hscenes] at hmem
      exact disjoint_concerns (List.mem_filter.mp hmem).2
    obtain ⟨hopen, hdone⟩ := Prod.mk.inj hview
    obtain ⟨hnone, hnil⟩ := Prod.mk.inj hframe
    refine parse_eq_ok_iff.mpr ⟨e, he, ?_⟩
    simp [Draft.story, Draft.finish, Draft.finishScene, Draft.finishCharacter, hopen, hdone, hnone,
      hnil]
  · obtain ⟨e, he, hview⟩ := Draft.isHalf_characterHalf.run hcharacters rfl hrun
    have hframe : e.sceneHalf = ({} : Draft).sceneHalf := by
      refine Draft.isHalf_sceneHalf.run_frame ?_ he
      intro l hl
      have hmem : l.2 ∈ statements (extract concernsCharacters script) := List.mem_map_of_mem hl
      rw [hcharacters] at hmem
      rw [← Bool.not_eq_true]
      intro hscene
      have hline := (List.mem_filter.mp hmem).2
      rw [disjoint_concerns hscene] at hline
      cases hline
    obtain ⟨hopen, hdone⟩ := Prod.mk.inj hview
    obtain ⟨hnone, hnil⟩ := Prod.mk.inj hframe
    refine parse_eq_ok_iff.mpr ⟨e, he, ?_⟩
    simp [Draft.story, Draft.finish, Draft.finishScene, Draft.finishCharacter, hopen, hdone, hnone,
      hnil, linkAll]

theorem exists_ok_iff {script : String} :
    (∃ story, parse script = .ok story) ↔
      (∃ story, parse (extract concernsScenes script) = .ok story) ∧
        ∃ story, parse (extract concernsCharacters script) = .ok story := by
  constructor
  · rintro ⟨story, h⟩
    obtain ⟨hscenes, hcharacters⟩ := extracts_of_ok h
    exact ⟨⟨_, hscenes⟩, ⟨_, hcharacters⟩⟩
  · rintro ⟨⟨left, hleft⟩, ⟨right, hright⟩⟩
    cases h : parse script with
    | ok story => exact ⟨story, rfl⟩
    | error x =>
      rcases failsFirst_of_error h with ⟨n, y, hy, -⟩ | ⟨n, y, hy, -⟩
      · rw [hleft] at hy
        cases hy
      · rw [hright] at hy
        cases hy

/-- The story depends on the two extracts alone, and not on how their lines are mixed. -/
theorem parse_eq_ok_of_extracts {script other : String} {story : Story}
    (hscenes : extract concernsScenes other = extract concernsScenes script)
    (hcharacters : extract concernsCharacters other = extract concernsCharacters script)
    (h : parse script = .ok story) : parse other = .ok story := by
  have hboth := exists_ok_iff.mp ⟨story, h⟩
  rw [← hscenes, ← hcharacters] at hboth
  obtain ⟨story', hother⟩ := exists_ok_iff.mpr hboth
  obtain ⟨hs, hc⟩ := extracts_of_ok h
  obtain ⟨hs', hc'⟩ := extracts_of_ok hother
  rw [hscenes, hs] at hs'
  rw [hcharacters, hc] at hc'
  have hstory : story' = story := by
    rcases story with ⟨scenes, characters⟩
    rcases story' with ⟨scenes', characters'⟩
    cases hs'
    cases hc'
    rfl
  rw [hother, hstory]

theorem parse_extract_of_error {script : String} {x : ScriptError} (h : parse script = .error x) :
    ∃ (n : Nat) (y : ScriptError), parse (extract concernsBlocks script) = .error y ∧
      x = y.atLine n := by
  obtain ⟨above, below, n, line, e, y, hlines, hrun, hstep, rfl⟩ :=
    Draft.run_eq_error_iff.mp (parse_eq_error_iff.mp h)
  have hline := Draft.concernsBlocks_of_step_error hstep
  obtain ⟨z, hz, -, hx⟩ := Draft.isHalf_id.error_at hlines hrun hline hstep
  exact ⟨n, z, hz, hx⟩

theorem parse_extract_of_ok {script : String} {story : Story} (h : parse script = .ok story) :
    parse (extract concernsBlocks script) = .ok story := by
  obtain ⟨d, hrun, rfl⟩ := parse_eq_ok_iff.mp h
  obtain ⟨e, he, rfl⟩ := Draft.isHalf_id.run (statements_extract concernsBlocks script) rfl hrun
  exact parse_eq_ok_iff.mpr ⟨e, he, rfl⟩

/-- Lines that have no part in a block change no more of an error than its line number. -/
theorem parse_eq_error_of_extract {script other : String} {x : ScriptError}
    (hblocks : extract concernsBlocks other = extract concernsBlocks script)
    (h : parse script = .error x) : ∃ n : Nat, parse other = .error (x.atLine n) := by
  obtain ⟨n, y, hy, rfl⟩ := parse_extract_of_error h
  cases hother : parse other with
  | ok story =>
    have hok := parse_extract_of_ok hother
    rw [hblocks, hy] at hok
    cases hok
  | error z =>
    obtain ⟨m, w, hw, rfl⟩ := parse_extract_of_error hother
    rw [hblocks, hy] at hw
    cases hw
    exact ⟨m, rfl⟩

/-- The parse of a script is told by those of its two extracts. A script has a story if both have
one, and then its scenes are those of the one and its characters those of the other. Its error is
that of the extract which fails on the earlier line. No other lines and no way of mixing the two
change a story, and lines that have no part in a block change just the line number of an error. -/
theorem parse_by_halves (script : String) :
    ((∃ story, parse script = .ok story) ↔
      (∃ story, parse (extract concernsScenes script) = .ok story) ∧
        ∃ story, parse (extract concernsCharacters script) = .ok story) ∧
    (∀ story, parse script = .ok story →
      parse (extract concernsScenes script) = .ok { scenes := story.scenes, characters := [] } ∧
        parse (extract concernsCharacters script) =
          .ok { scenes := [], characters := story.characters }) ∧
    (∀ x, parse script = .error x →
      FailsFirst concernsScenes concernsCharacters script x ∨
        FailsFirst concernsCharacters concernsScenes script x) ∧
    (∀ other story, extract concernsScenes other = extract concernsScenes script →
      extract concernsCharacters other = extract concernsCharacters script →
        parse script = .ok story → parse other = .ok story) ∧
    ∀ other x, extract concernsBlocks other = extract concernsBlocks script →
      parse script = .error x → ∃ n : Nat, parse other = .error (x.atLine n) := by
  refine ⟨exists_ok_iff, fun _ => extracts_of_ok, fun _ => failsFirst_of_error, ?_, ?_⟩
  · intro other story hscenes hcharacters h
    exact parse_eq_ok_of_extracts hscenes hcharacters h
  · intro other x hblocks h
    exact parse_eq_error_of_extract hblocks h

/-- A script with a character declared within a scene, and a line that is no statement. -/
def mixedScript : String :=
  "scene A:\ncharacter Al:\n    choice<B>: Go\nnote\n    emotion sad: s.png"

/-- The same script without the path of the emotion and, below it, without the target of a
choice. -/
def brokenMixedScript : String :=
  "scene A:\ncharacter Al:\nnote\n    emotion sad:\n    choice: Go"

set_option maxRecDepth 4000 in
theorem parse_by_halves_of_mixedScript :
    (∃ scene character,
      parse mixedScript = .ok { scenes := [scene], characters := [character] } ∧
        parse (extract concernsScenes mixedScript) = .ok { scenes := [scene], characters := [] } ∧
        parse (extract concernsCharacters mixedScript) =
          .ok { scenes := [], characters := [character] }) ∧
      ∃ x, parse brokenMixedScript = .error x ∧ x.lineNumber = some 4 ∧
        (FailsFirst concernsScenes concernsCharacters brokenMixedScript x ∨
          FailsFirst concernsCharacters concernsScenes brokenMixedScript x) := by
  constructor
  · obtain ⟨-, halves, -⟩ := parse_by_halves mixedScript
    have h : parse mixedScript = .ok
        { scenes := [{ label := "A", choices := some [⟨"Go", "B"⟩] }]
          characters := [{ name := "Al", emotions := .ofList [("sad", "s.png")] }] } := by rfl
    exact ⟨_, _, h, halves _ h⟩
  · obtain ⟨-, -, first, -⟩ := parse_by_halves brokenMixedScript
    have h : parse brokenMixedScript = .error
        { cause := .emotionWithoutPath, line := "    emotion sad:", lineNumber := some 4 } := by rfl
    exact ⟨_, h, rfl, first _ h⟩

end SceneScript
