import SceneScript.Proofs.Script.EmotionLines
import SceneScript.Report.Page

set_option autoImplicit false
set_option relaxedAutoImplicit false

/-!
# Emotions in a report

A report lists the emotions of a character by name, whatever the order in which the script gives
them. A list of entries without repeated names can be sorted in one way only, so the report and its
page stay the same when emotion lines are reordered. Main statement:
`report_of_reordered_emotions`.
-/

namespace SceneScript

/-- The order of two texts by their first different characters, where a text that ends comes first
and the characters are compared by their code points. -/
def ComesBefore (s t : String) : Prop :=
  List.Lex (fun c d => c.toNat < d.toNat) s.toList t.toList

theorem lt_iff_comesBefore {s t : String} : s < t ↔ ComesBefore s t := Iff.rfl

namespace EmotionTable

variable {t u : EmotionTable}

theorem sorted_perm (t : EmotionTable) : t.sorted.Perm t.entries :=
  List.mergeSort_perm t.entries _

theorem nodup_names_sorted (t : EmotionTable) : (t.sorted.map Prod.fst).Nodup :=
  ((sorted_perm t).map Prod.fst).nodup_iff.mpr t.nodup

/-- No two names in a table are the same, so each one comes strictly before the next. -/
theorem pairwise_sorted (t : EmotionTable) : t.sorted.Pairwise (fun e f => e.1 < f.1) := by
  have hle : t.sorted.Pairwise (fun e f => decide (e.1 ≤ f.1) = true) := by
    refine List.pairwise_mergeSort ?_ ?_ t.entries
    · intro e f g hef hfg
      rw [decide_eq_true_eq] at hef hfg ⊢
      exact String.le_trans hef hfg
    · intro e f
      rw [Bool.or_eq_true, decide_eq_true_eq, decide_eq_true_eq]
      exact String.le_total e.1 f.1
  have hne : t.sorted.Pairwise (fun e f => e.1 ≠ f.1) := List.pairwise_map.mp (nodup_names_sorted t)
  refine (hle.and hne).imp ?_
  rintro e f ⟨hef, hdistinct⟩
  rw [decide_eq_true_eq] at hef
  exact String.not_le.mp (fun hfe => hdistinct (String.le_antisymm hef hfe))

/-- Tables with the same entries, in whichever order, are sorted alike. -/
theorem sorted_eq_of_perm (h : t.entries.Perm u.entries) : t.sorted = u.sorted := by
  refine List.Perm.eq_of_pairwise ?_ (pairwise_sorted t) (pairwise_sorted u) ?_
  · intro e f _ _ hef hfe
    exact absurd hfe (String.lt_asymm hef)
  · exact (sorted_perm t).trans (h.trans (sorted_perm u).symm)

end EmotionTable

/-! Reports -/

theorem Character.Reordered.row_eq {c d : Character} (h : c.Reordered d) :
    CharacterRow.ofCharacter c = CharacterRow.ofCharacter d :=
  congrArg₂ CharacterRow.mk h.name (EmotionTable.sorted_eq_of_perm h.emotions)

/-- A report tells nothing about the order of the entries in emotion tables. -/
theorem Report.ofStory_of_reordered {s t : Story} (h : s.Reordered t) (title : Option String)
    (now : Timestamp) : Report.ofStory s title now = Report.ofStory t title now := by
  have hrows : s.characters.map CharacterRow.ofCharacter =
      t.characters.map CharacterRow.ofCharacter :=
    map_eq_map_of_forall₂ (h.characters.imp fun _ _ hc => hc.row_eq)
  have hlength : s.characters.length = t.characters.length := h.characters.length_eq
  simp only [Report.ofStory, Story.danglingChoices, h.scenes, hrows, hlength]

theorem Story.page_of_reordered {s t : Story} (h : s.Reordered t) (title : Option String)
    (now : Timestamp) : s.page title now = t.page title now := by
  rw [Story.page, Story.page, Report.ofStory_of_reordered h]

/-- A row has each entry of its character once, in the strict order of names. -/
structure CharacterRow.ListsInOrder (row : CharacterRow) (c : Character) : Prop where
  name : row.name = c.name
  entries : row.emotions.Perm c.emotions.entries
  order : (row.emotions.map Prod.fst).Pairwise ComesBefore

theorem CharacterRow.listsInOrder_ofCharacter (c : Character) :
    (CharacterRow.ofCharacter c).ListsInOrder c where
  name := rfl
  entries := EmotionTable.sorted_perm c.emotions
  order := List.pairwise_map.mpr
    ((EmotionTable.pairwise_sorted c.emotions).imp lt_iff_comesBefore.mp)

/-- The order of the entries in emotion tables changes neither a report nor its page, and each row
lists the entries of its character in the strict order of their names. So scripts whose emotion
lines stand in different orders have one page. Lines for different names can change places anywhere
between two declarations of characters. -/
theorem report_of_reordered_emotions (title : Option String) (now : Timestamp) :
    (∀ s t : Story, s.Reordered t →
      Report.ofStory s title now = Report.ofStory t title now ∧
        s.page title now = t.page title now) ∧
    (∀ s : Story, List.Forall₂ CharacterRow.ListsInOrder
      (Report.ofStory s title now).characters s.characters) ∧
    (∀ script other story, parse script = .ok story →
      EmotionLinesReordered (statements script) (statements other) →
      ∃ story', parse other = .ok story' ∧ story.Reordered story' ∧
        story.page title now = story'.page title now) ∧
    (∀ above lines others below : List String,
      (∀ l ∈ lines, Keyword.character.heads l = false) →
      lines.filter (fun l => !Keyword.emotion.heads l) =
        others.filter (fun l => !Keyword.emotion.heads l) →
      (lines.filter Keyword.emotion.heads).Perm (others.filter Keyword.emotion.heads) →
      ((lines.filter Keyword.emotion.heads).map emotionName).Nodup →
      EmotionLinesReordered (above ++ lines ++ below) (above ++ others ++ below)) := by
  refine ⟨?_, ?_, ?_, ?_⟩
  · intro s t h
    exact ⟨Report.ofStory_of_reordered h title now, Story.page_of_reordered h title now⟩
  · intro s
    rw [Report.ofStory, List.forall₂_map_left_iff, List.forall₂_same]
    exact fun c _ => CharacterRow.listsInOrder_ofCharacter c
  · intro script other story hscript hlines
    obtain ⟨story', hother, hstory⟩ := parse_of_emotionLinesReordered hscript hlines
    exact ⟨story', hother, hstory, Story.page_of_reordered hstory title now⟩
  · intro above lines others below hlines hrest hperm hnodup
    exact .of_part hlines hrest (sameEmotionLines_of_perm hperm hnodup) above below

/-- A script with a scene among the emotions of a character. -/
def shySadScript : String :=
  "character Al:\n    emotion shy: h.png\nscene A:\n    emotion sad: s.png\ncharacter Bo:"

/-- The script `shySadScript` with its emotion lines reordered. -/
def sadShyScript : String :=
  "character Al:\n    emotion sad: s.png\n    emotion shy: h.png\nscene A:\ncharacter Bo:"

/-- The story of `shySadScript`. -/
def shySadStory : Story :=
  { scenes := [{ label := "A" }]
    characters :=
      [{ name := "Al", emotions := .ofList [("shy", "h.png"), ("sad", "s.png")] },
        { name := "Bo" }] }

/-- The story of `sadShyScript`. -/
def sadShyStory : Story :=
  { scenes := [{ label := "A" }]
    characters :=
      [{ name := "Al", emotions := .ofList [("sad", "s.png"), ("shy", "h.png")] },
        { name := "Bo" }] }

theorem report_of_shySadScript :
    parse shySadScript = .ok shySadStory ∧ parse sadShyScript = .ok sadShyStory ∧
      shySadStory ≠ sadShyStory ∧
      ∀ title now,
        Report.ofStory shySadStory title now = Report.ofStory sadShyStory title now ∧
        shySadStory.page title now = sadShyStory.page title now ∧
        (Report.ofStory shySadStory title now).characters =
          [⟨"Al", [("sad", "s.png"), ("shy", "h.png")]⟩, ⟨"Bo", []⟩] ∧
        List.Forall₂ CharacterRow.ListsInOrder
          (Report.ofStory shySadStory title now).characters shySadStory.characters := by
  have hparse : parse shySadScript = .ok shySadStory := by decide +kernel
  have hother : parse sadShyScript = .ok sadShyStory := by decide +kernel
  have hsorted : (EmotionTable.ofList [("sad", "s.png"), ("shy", "h.png")]).sorted =
      [("sad", "s.png"), ("shy", "h.png")] := List.mergeSort_of_pairwise (by decide)
  have hnone : (∅ : EmotionTable).sorted = [] := List.mergeSort_nil
  have hrows : sadShyStory.characters.map CharacterRow.ofCharacter =
      [⟨"Al", [("sad", "s.png"), ("shy", "h.png")]⟩, ⟨"Bo", []⟩] := by
    simp only [sadShyStory, List.map_cons, List.map_nil, CharacterRow.ofCharacter, hsorted, hnone]
  refine ⟨hparse, hother, by decide, fun title now => ?_⟩
  obtain ⟨stories, rows, scripts, parts⟩ := report_of_reordered_emotions title now
  have hshy : statements shySadScript = ["character Al:"] ++
      ["    emotion shy: h.png", "scene A:", "    emotion sad: s.png"] ++ ["character Bo:"] := by
    decide +kernel
  have hsad : statements sadShyScript = ["character Al:"] ++
      ["    emotion sad: s.png", "    emotion shy: h.png", "scene A:"] ++ ["character Bo:"] := by
    decide +kernel
  have hlines : EmotionLinesReordered (statements shySadScript) (statements sadShyScript) := by
    rw [hshy, hsad]
    exact parts _ _ _ _ (by decide) (by decide) (by decide) (by decide)
  obtain ⟨story', hstory', hreordered, hpage⟩ :=
    scripts shySadScript sadShyScript shySadStory hparse hlines
  rw [hother] at hstory'
  cases hstory'
  have hreport := (stories _ _ hreordered).1
  refine ⟨hreport, hpage, ?_, rows shySadStory⟩
  rw [hreport]
  exact hrows

end SceneScript
