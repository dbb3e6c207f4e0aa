import Mathlib.Data.List.Flatten
import SceneScript.Proofs.Script.Step
import SceneScript.Proofs.Text.Parts
import SceneScript.Report.Basic
import SceneScript.Script.Writer

set_option autoImplicit false
set_option relaxedAutoImplicit false

/-!
# Regular drafts and stories

What is true of every scene and character that a script can make, whatever its lines say. Each line
keeps a draft regular, also one that fails, and so does the search for parents at the end of a
parse. Main statement: `regular_drafts_and_stories`.
-/

namespace SceneScript

/-- A text that can be a label or a name, the empty one included: it holds no blank and does not end
in a colon. -/
def IsLabel (s : String) : Prop :=
  (∀ c ∈ s.toList, Text.isBlank c = false) ∧ s.toList.getLast? ≠ some ':'

structure Choice.Regular (c : Choice) : Prop where
  target_ne : c.target ≠ ""
  target : ∀ d ∈ c.target.toList, d ≠ ':' ∧ d ≠ '>'
  label : Text.trim c.label.toList = c.label.toList

/-- A scene as a script can make it. -/
structure Scene.Regular (s : Scene) : Prop where
  label : IsLabel s.label
  condition : ∀ c ∈ s.condition, IsCondition c
  next : ∀ l ∈ s.next, IsLabel l
  previous : ∀ l ∈ s.previous, IsLabel l
  dialogues : s.dialogues = []
  isEnding : s.isEnding = false
  choices : ∀ cs ∈ s.choices, cs ≠ [] ∧ ∀ c ∈ cs, c.Regular

structure EmotionEntry.Regular (e : EmotionEntry) : Prop where
  name : ∀ d ∈ e.name.toList, Text.isBlank d = false ∧ d ≠ ':'
  path_ne : e.path ≠ ""
  path : Text.trim e.path.toList = e.path.toList

/-- A character as a script can make it. -/
structure Character.Regular (c : Character) : Prop where
  name : IsLabel c.name
  names : c.emotions.names.Nodup
  emotions : ∀ e ∈ c.emotions.entries, (EmotionEntry.mk e.1 e.2).Regular

structure Draft.Regular (d : Draft) : Prop where
  openScene : ∀ s ∈ d.openScene, s.Regular
  openCharacter : ∀ c ∈ d.openCharacter, c.Regular
  scenes : ∀ s ∈ d.scenes, s.Regular
  characters : ∀ c ∈ d.characters, c.Regular

structure Story.Regular (s : Story) : Prop where
  scenes : ∀ scene ∈ s.scenes, scene.Regular
  characters : ∀ c ∈ s.characters, c.Regular

/-- The choices of a story with a blank in their target, in the order of scenes and choices. -/
def Story.blankTargets (s : Story) : List DanglingChoice :=
  s.scenes.flatMap (fun scene =>
    (scene.choiceList.filter (fun choice => choice.target.toList.any Text.isBlank)).map
      (fun choice => ⟨scene.label, choice.label, choice.target⟩))

/-! Statements -/

section Statements

variable {line : String}

theorem isLabel_dropColons {cs : List Char} (h : ∀ c ∈ cs, Text.isBlank c = false) :
    IsLabel (String.ofList (dropColons cs)) := by
  constructor
  · intro c hc
    rw [String.toList_ofList] at hc
    exact h c (Text.mem_of_mem_dropEndWhile hc)
  · intro hlast
    rw [String.toList_ofList] at hlast
    have hstays := Text.getLast?_dropEndWhile hlast
    simp at hstays

theorem isLabel_of_word (n : Nat) (cs : List Char) :
    IsLabel (String.ofList (dropColons (Text.word n cs))) :=
  isLabel_dropColons (fun _ hc => (Text.mem_of_mem_word hc).2)

theorem trim_afterColon (line : String) : Text.trim (afterColon line) = afterColon line :=
  Text.trim_trim _

theorem ofList_ne_empty {cs : List Char} (h : cs ≠ []) : String.ofList cs ≠ "" := by
  intro hempty
  have hcs := congrArg String.toList hempty
  rw [String.toList_ofList] at hcs
  exact h hcs

theorem regular_of_sceneOfLine {s : Scene} (h : Scene.ofLine line = .ok s) : s.Regular := by
  obtain ⟨-, rfl⟩ := eq_of_sceneOfLine h
  constructor
  case label =>
    apply isLabel_dropColons
    intro c hc
    exact (Text.mem_of_mem_word (mem_of_mem_splitParameter hc)).2
  case condition =>
    intro c hc
    obtain ⟨parameter, hparameter, rfl⟩ := Option.map_eq_some_iff.mp hc
    obtain ⟨hne, hinner⟩ := parameter_spec hparameter
    refine ⟨ofList_ne_empty hne, ?_⟩
    intro d hd
    rw [String.toList_ofList] at hd
    obtain ⟨hword, hclose⟩ := hinner d hd
    exact ⟨(Text.mem_of_mem_word hword).2, hclose⟩
  case next =>
    intro l hl
    rw [← String.ofList_toList (s := l), nonEmpty?_eq_some hl]
    exact isLabel_of_word 3 line.toList
  case previous =>
    intro l hl
    cases hl
  case dialogues => rfl
  case isEnding => rfl
  case choices =>
    intro cs hcs
    cases hcs

theorem regular_of_characterOfLine {c : Character} (h : Character.ofLine line = .ok c) :
    c.Regular := by
  rw [Character.ofLine] at h
  split at h
  · cases h
  · rw [← Except.ok.inj h]
    refine ⟨isLabel_of_word 1 line.toList, List.nodup_nil, ?_⟩
    intro e he
    cases he

theorem regular_of_choiceOfLine {c : Choice} (h : Choice.ofLine line = .ok c) : c.Regular := by
  rw [Choice.ofLine] at h
  split at h
  · cases h
  · rename_i target htarget
    rw [← Except.ok.inj h]
    obtain ⟨hne, hinner⟩ := parameter_spec htarget
    refine ⟨ofList_ne_empty hne, ?_, ?_⟩
    · intro d hd
      rw [String.toList_ofList] at hd
      obtain ⟨hbefore, hclose⟩ := hinner d hd
      exact ⟨(Text.mem_of_mem_before hbefore).2, hclose⟩
    · rw [String.toList_ofList, trim_afterColon]

theorem regular_of_emotionOfLine {e : EmotionEntry} (h : EmotionEntry.ofLine line = .ok e) :
    e.Regular := by
  rw [EmotionEntry.ofLine] at h
  split at h
  · cases h
  · rename_i hne
    rw [← Except.ok.inj h]
    refine ⟨?_, ofList_ne_empty (by simpa using hne), ?_⟩
    · intro d hd
      rw [String.toList_ofList] at hd
      obtain ⟨hbefore, hsolid⟩ := Text.mem_of_mem_word hd
      exact ⟨hsolid, (Text.mem_of_mem_before hbefore).2⟩
    · rw [String.toList_ofList, trim_afterColon]

end Statements

/-! Steps -/

theorem Scene.Regular.choiceList {s : Scene} (h : s.Regular) : ∀ c ∈ s.choiceList, c.Regular := by
  intro c hc
  rw [Scene.choiceList] at hc
  rcases hchoices : s.choices with _ | cs
  · rw [hchoices] at hc
    cases hc
  · rw [hchoices] at hc
    exact (h.choices cs hchoices).2 c hc

theorem Scene.Regular.addChoice {s : Scene} {c : Choice} (hs : s.Regular) (hc : c.Regular) :
    (s.addChoice c).Regular := by
  refine { hs with choices := ?_ }
  intro cs hcs
  obtain rfl : s.choiceList ++ [c] = cs := Option.some.inj hcs
  refine ⟨by simp, ?_⟩
  intro d hd
  rcases List.mem_append.mp hd with hold | hnew
  · exact hs.choiceList d hold
  · rwa [List.mem_singleton.mp hnew]

theorem Character.Regular.setEmotion {c : Character} {e : EmotionEntry} (hc : c.Regular)
    (he : e.Regular) : (c.setEmotion e).Regular := by
  refine ⟨hc.name, (c.emotions.insert e.name e.path).nodup, ?_⟩
  intro f hf
  rcases mem_insertEntry hf with rfl | hold
  · exact he
  · exact hc.emotions f hold

theorem Scene.Regular.chainTo {s : Scene} {label : String} (hs : s.Regular) (hl : IsLabel label) :
    (Draft.chainTo label s).Regular := by
  refine { hs with next := ?_ }
  intro l hnext
  obtain rfl : s.next.getD label = l := Option.some.inj hnext
  rcases hs' : s.next with _ | own
  · exact hl
  · exact hs.next own hs'

namespace Draft.Regular

variable {d e : Draft} {line : String}

theorem finishCharacter (h : d.Regular) : d.finishCharacter.Regular := by
  refine { h with openCharacter := ?_, characters := ?_ }
  · intro c hc
    cases hc
  · intro c hc
    rcases List.mem_append.mp hc with hdone | hopen
    · exact h.characters c hdone
    · exact h.openCharacter c (Option.mem_toList.mp hopen)

theorem finishScene (h : d.Regular) : d.finishScene.Regular := by
  refine { h with openScene := ?_, scenes := ?_ }
  · intro s hs
    cases hs
  · intro s hs
    rcases List.mem_append.mp hs with hdone | hopen
    · exact h.scenes s hdone
    · exact h.openScene s (Option.mem_toList.mp hopen)

/-- The label of each scene goes to the scene on its other side, and all labels are regular. -/
theorem startScene (h : d.Regular) {s : Scene} (hs : s.Regular) : (d.startScene s).Regular := by
  rcases hopen : d.openScene with _ | r
  · rw [Draft.startScene_of_none hopen]
    refine { h with openScene := ?_ }
    intro t ht
    rwa [← Option.some.inj ht]
  · have hr := h.openScene r hopen
    rw [Draft.startScene_of_some hopen]
    refine { h with openScene := ?_, scenes := ?_ }
    · intro t ht
      rw [← Option.some.inj ht]
      refine { hs with previous := ?_ }
      intro l hl
      rw [← Option.some.inj hl]
      exact hr.label
    · intro t ht
      rcases List.mem_append.mp ht with hdone | hnew
      · exact h.scenes t hdone
      · rw [List.mem_singleton.mp hnew]
        exact hr.chainTo hs.label

theorem advance (h : d.Regular) (hadvance : Advance d line e) : e.Regular := by
  cases hadvance with
  | character head read =>
    refine { h.finishCharacter with openCharacter := ?_ }
    intro c hc
    rw [← Option.some.inj hc]
    exact regular_of_characterOfLine read
  | emotion head opened read =>
    refine { h with openCharacter := ?_ }
    intro c hc
    rw [← Option.some.inj hc]
    exact (h.openCharacter _ opened).setEmotion (regular_of_emotionOfLine read)
  | scene head read => exact h.startScene (regular_of_sceneOfLine read)
  | choice head opened read =>
    refine { h with openScene := ?_ }
    intro s hs
    rw [← Option.some.inj hs]
    exact (h.openScene _ opened).addChoice (regular_of_choiceOfLine read)
  | inert head => exact h

/-- A line keeps a draft regular, whether it fails or not. -/
theorem step (h : d.Regular) (line : String) : (d.step line).1.Regular := by
  rcases hstep : d.step line with ⟨e, _ | x⟩
  · exact h.advance (advance_of_step hstep)
  · -- a line that fails has at most closed the open character
    show e.Regular
    rw [eq_of_step_error hstep]
    split
    · exact h.finishCharacter
    · exact h

theorem applyAll (h : d.Regular) (lines : List String) : (d.applyAll lines).Regular := by
  induction lines generalizing d with
  | nil => exact h
  | cons line lines ih => exact ih (h.step line)

theorem empty : ({} : Draft).Regular := by
  constructor <;> intro _ h <;> cases h

end Draft.Regular

/-! Parents -/

theorem Scene.Regular.linkBack {scenes : List Scene} (h : ∀ s ∈ scenes, s.Regular) {s : Scene}
    (hs : s.Regular) : (linkBack scenes s).Regular := by
  rw [SceneScript.linkBack]
  split
  · exact hs
  · rename_i label hparent
    obtain ⟨p, hp, rfl⟩ := Option.map_eq_some_iff.mp hparent
    refine { hs with previous := ?_ }
    intro l hl
    rw [← Option.some.inj hl]
    exact (h p (List.mem_of_find?_eq_some hp)).label

theorem Draft.Regular.story {d : Draft} (h : d.Regular) : d.story.Regular := by
  refine ⟨?_, h.characters⟩
  intro s hs
  obtain ⟨t, ht, rfl⟩ := List.mem_map.mp hs
  exact (h.scenes t ht).linkBack h.scenes

/-! Targets -/

/-- No scene has a label with a blank in it, so a choice whose target holds one leads nowhere. -/
theorem Story.Regular.blankTargets_sublist {s : Story} (h : s.Regular) :
    s.blankTargets.Sublist s.danglingChoices := by
  have hlost : ∀ c : Choice, c.target.toList.any Text.isBlank = true →
      c.target ∉ s.scenes.map (fun scene => scene.label) := by
    intro c hblank hmem
    obtain ⟨d, hd, hdblank⟩ := List.any_eq_true.mp hblank
    obtain ⟨scene, hscene, hlabel⟩ := List.mem_map.mp hmem
    have hsolid := (h.scenes scene hscene).label.1 d (hlabel ▸ hd)
    rw [hdblank] at hsolid
    cases hsolid
  unfold Story.blankTargets Story.danglingChoices
  apply List.Sublist.flatMap_right
  intro scene hscene
  apply List.Sublist.map
  apply List.monotone_filter_right
  intro c hblank
  simpa using hlost c hblank

/-- Whatever lines are applied to an empty draft, failing ones included, each scene and character is
regular, and so is the story of a script. A choice whose target holds a blank therefore dangles. -/
theorem regular_drafts_and_stories :
    (∀ lines, (({} : Draft).applyAll lines).Regular) ∧
    ∀ script story, parse script = .ok story →
      story.Regular ∧ story.blankTargets.Sublist story.danglingChoices := by
  have hdrafts : ∀ lines, (({} : Draft).applyAll lines).Regular := fun lines =>
    Draft.Regular.empty.applyAll lines
  refine ⟨hdrafts, ?_⟩
  intro script story hparse
  obtain ⟨d, hrun, rfl⟩ := parse_eq_ok_iff.mp hparse
  have hd : d.Regular := by
    rw [← Draft.applyAll_of_run hrun]
    exact hdrafts _
  have hstory : d.finish.story.Regular := hd.finishScene.finishCharacter.story
  exact ⟨hstory, hstory.blankTargets_sublist⟩

/-- A script with a blank in a target, and a colon and a bracket in a condition. -/
def spacedScript : String :=
  "scene a<k:<l> -> b:\n    choice<a b>: \tGo \n    choice<b>: Stay\nscene b:\n" ++
    "character Al:\n    emotion sad: s.png "

/-- The story of `spacedScript`. -/
def spacedStory : Story :=
  { scenes :=
      [{ label := "a", condition := some "k:<l", next := some "b",
         choices := some [⟨"Go", "a b"⟩, ⟨"Stay", "b"⟩] },
        { label := "b", previous := some "a" }]
    characters := [{ name := "Al", emotions := .ofList [("sad", "s.png")] }] }

theorem regular_spacedStory :
    parse spacedScript = .ok spacedStory ∧ spacedStory.Regular ∧
      spacedStory.blankTargets = [⟨"a", "Go", "a b"⟩] ∧
      spacedStory.blankTargets.Sublist spacedStory.danglingChoices := by
  have h : parse spacedScript = .ok spacedStory := by decide +kernel
  obtain ⟨hregular, hdangling⟩ := regular_drafts_and_stories.2 spacedScript spacedStory h
  exact ⟨h, hregular, by decide +kernel, hdangling⟩

end SceneScript
