import SceneScript.Proofs.Script.Concatenation
import SceneScript.Proofs.Script.Declarations
import SceneScript.Proofs.Script.Independence

set_option autoImplicit false
set_option relaxedAutoImplicit false

/-!
# Emotion lines in another order

The emotion lines of a character may change places, with one another and with all other lines of the
block, as long as the lines for one name keep their order. This neither gives nor takes a script its
story, and it changes no more of the story than the order of entries in emotion tables. Main
statement: `parse_of_emotionLinesReordered`. It rests on `inoffensive_iff`, which tells what is
wrong with a line on its own from what is wrong with its place.
-/

namespace SceneScript

/-! Lines in another order -/

/-- The emotion that a line names: the second word before its first colon. -/
def emotionName (line : String) : String :=
  String.ofList (Text.word 1 (Text.before ':' line.toList))

/-- Whether a line is the statement that gives an emotion its path. -/
def givesEmotion (name line : String) : Bool :=
  emotionName line == name && Keyword.emotion.heads line

/-- Two lists of lines have the same emotion lines, and those for one name are in the same order. -/
def SameEmotionLines (lines others : List String) : Prop :=
  ∀ name, lines.filter (givesEmotion name) = others.filter (givesEmotion name)

/-- Lines are others with the emotion lines reordered. All other lines stand as they did, and each
emotion line stays below the declaration of its character. -/
structure EmotionLinesReordered (lines others : List String) : Prop where
  rest : lines.filter (fun l => !Keyword.emotion.heads l) =
    others.filter (fun l => !Keyword.emotion.heads l)
  above : SameEmotionLines (lines.takeWhile (fun l => !Keyword.character.heads l))
    (others.takeWhile (fun l => !Keyword.character.heads l))
  blocks : List.Forall₂ (fun p q => p.1 = q.1 ∧ SameEmotionLines p.2 q.2)
    (sections Keyword.character.heads lines) (sections Keyword.character.heads others)

/-- A character is another with the entries of the emotion table reordered. -/
structure Character.Reordered (c d : Character) : Prop where
  name : c.name = d.name
  emotions : c.emotions.entries.Perm d.emotions.entries

/-- A story is another with the entries of its emotion tables reordered. -/
structure Story.Reordered (s t : Story) : Prop where
  scenes : s.scenes = t.scenes
  characters : List.Forall₂ Character.Reordered s.characters t.characters

/-! Lists -/

theorem exists_mem_of_forall₂ {α β : Type} {R : α -> β -> Prop} {xs : List α} {ys : List β}
    (h : List.Forall₂ R xs ys) {y : β} (hy : y ∈ ys) : ∃ x ∈ xs, R x y := by
  induction h with
  | nil => cases hy
  | cons hxy _ ih =>
    rcases List.mem_cons.mp hy with rfl | hrest
    · exact ⟨_, List.mem_cons_self, hxy⟩
    · obtain ⟨x, hx, hR⟩ := ih hrest
      exact ⟨x, List.mem_cons_of_mem _ hx, hR⟩

/-- What is read from two lists is related, element by element, as the lists are. -/
theorem forall₂_of_readings {α β γ δ : Type} {R : α -> β -> Prop} {P : γ -> α -> Prop}
    {Q : δ -> β -> Prop} {S : γ -> δ -> Prop}
    (hS : ∀ c d a b, P c a → Q d b → R a b → S c d) {as : List α} {bs : List β} {cs : List γ}
    {ds : List δ} (hR : List.Forall₂ R as bs) (hP : List.Forall₂ P cs as)
    (hQ : List.Forall₂ Q ds bs) : List.Forall₂ S cs ds := by
  induction hR generalizing cs ds with
  | nil =>
    cases hP
    cases hQ
    exact .nil
  | cons hab _ ih =>
    rcases hP with _ | ⟨hca, hcs⟩
    rcases hQ with _ | ⟨hdb, hds⟩
    exact .cons (hS _ _ _ _ hca hdb hab) (ih hcs hds)

theorem filter_filter_of_imp {α : Type} {keep part : α -> Bool}
    (h : ∀ a, part a = true → keep a = true) (xs : List α) :
    (xs.filter keep).filter part = xs.filter part := by
  rw [List.filter_filter]
  apply List.filter_congr
  intro a _
  by_cases ha : part a = true
  · rw [ha, h a ha, Bool.and_true]
  · rw [Bool.not_eq_true] at ha
    rw [ha, Bool.false_and]

theorem takeWhile_filter_of_imp {α : Type} {keep opens : α -> Bool}
    (h : ∀ a, opens a = true → keep a = true) (xs : List α) :
    (xs.filter keep).takeWhile (fun a => !opens a) =
      (xs.takeWhile (fun a => !opens a)).filter keep := by
  rw [List.takeWhile_filter]
  refine congrArg (List.filter keep) (congrArg (fun p => xs.takeWhile p) (funext fun a => ?_))
  by_cases ha : opens a = true
  · rw [ha, h a ha]
    rfl
  · rw [Bool.not_eq_true] at ha
    rw [ha, Bool.not_false, Bool.or_true]

theorem mem_takeWhile_of_forall {α : Type} {p : α -> Bool} {above : List α} {a : α}
    (habove : ∀ x ∈ above, p x = true) (ha : p a = true) (below : List α) :
    a ∈ (above ++ a :: below).takeWhile p := by
  rw [List.takeWhile_append_of_pos habove, List.takeWhile_cons_of_pos ha]
  exact List.mem_append_right _ List.mem_cons_self

/-! Lines that can be read -/

section Offences

variable {line : String} {lines : List String}

/-- A line that does not offend below the declarations that it calls for. -/
structure IsReadable (line : String) : Prop where
  scene : Keyword.ofLine? line = some .scene → hasInlineText line = false
  character : Keyword.ofLine? line = some .character → hasInlineText line = false
  choice : Keyword.ofLine? line = some .choice → ¬ NamesNoTarget line
  emotion : Keyword.ofLine? line = some .emotion → ¬ NamesNoPath line

theorem Inoffensive.isReadable (h : Inoffensive lines) (hmem : line ∈ lines) : IsReadable line := by
  obtain ⟨above, below, hsplit⟩ := List.append_of_mem hmem
  have hnone : ∀ cause, ¬ Offends above line cause := fun cause => h above line below cause hsplit
  refine ⟨fun head => ?_, fun head => ?_, fun head bare => ?_, fun head bare => ?_⟩
  · rw [← Bool.not_eq_true]
    exact fun inline => hnone _ (.sceneText head inline)
  · rw [← Bool.not_eq_true]
    exact fun inline => hnone _ (.characterText head inline)
  · by_cases inside : ∃ l ∈ above, Keyword.ofLine? l = some .scene
    · exact hnone _ (.choiceTarget head inside bare)
    · exact hnone _ (.choiceOutside head (fun l hl hscene => inside ⟨l, hl, hscene⟩))
  · by_cases inside : ∃ l ∈ above, Keyword.ofLine? l = some .character
    · exact hnone _ (.emotionPath head inside bare)
    · exact hnone _ (.emotionOutside head (fun l hl hcharacter => inside ⟨l, hl, hcharacter⟩))

/-- A line below no line of a kind, which is not of this kind itself, is above the first one. -/
theorem mem_takeWhile_heads {above : List String} {opens keyword : Keyword}
    (hother : keyword ≠ opens) (head : Keyword.ofLine? line = some keyword)
    (outside : ∀ l ∈ above, Keyword.ofLine? l ≠ some opens) (below : List String) :
    line ∈ ((above ++ line :: below).takeWhile (fun l => !opens.heads l)).filter keyword.heads := by
  have habove : ∀ l ∈ above, (!opens.heads l) = true := by
    intro l hl
    rw [Bool.not_eq_true', ← Bool.not_eq_true, Keyword.heads_iff]
    exact outside l hl
  have hline : (!opens.heads line) = true := by
    rw [Keyword.heads_of_ofLine? head]
    simpa using hother
  rw [List.mem_filter]
  exact ⟨mem_takeWhile_of_forall habove hline below, Keyword.heads_iff.mpr head⟩

/-- No line offends if and only if each one can be read and none stands above all declarations that
it calls for. -/
theorem inoffensive_iff :
    Inoffensive lines ↔
      (lines.takeWhile (fun l => !Keyword.scene.heads l)).filter Keyword.choice.heads = [] ∧
      (lines.takeWhile (fun l => !Keyword.character.heads l)).filter Keyword.emotion.heads = [] ∧
      ∀ line ∈ lines, IsReadable line := by
  constructor
  · intro h
    exact ⟨filter_choices_eq_nil h, filter_emotions_eq_nil h, fun line => h.isReadable⟩
  · rintro ⟨hchoices, hemotions, hreadable⟩ above line below cause rfl hoffends
    have hline : IsReadable line := hreadable line (by simp)
    cases hoffends with
    | sceneText head inline =>
      rw [hline.scene head] at inline
      cases inline
    | characterText head inline =>
      rw [hline.character head] at inline
      cases inline
    | choiceOutside head outside =>
      have hmem := mem_takeWhile_heads (by decide) head outside below
      rw [hchoices] at hmem
      cases hmem
    | choiceTarget head inside bare => exact hline.choice head bare
    | emotionOutside head outside =>
      have hmem := mem_takeWhile_heads (by decide) head outside below
      rw [hemotions] at hmem
      cases hmem
    | emotionPath head inside bare => exact hline.emotion head bare

end Offences

/-! What stays -/

section Lines

variable {line : String} {lines others : List String}

theorem SameEmotionLines.mem (h : SameEmotionLines lines others)
    (head : Keyword.emotion.heads line = true) (hmem : line ∈ others) : line ∈ lines := by
  have hgives : givesEmotion (emotionName line) line = true := by
    simp [givesEmotion, head]
  have hfilter : line ∈ others.filter (givesEmotion (emotionName line)) :=
    List.mem_filter.mpr ⟨hmem, hgives⟩
  rw [← h] at hfilter
  exact List.mem_of_mem_filter hfilter

/-- Emotion lines with different names can change places in any way. -/
theorem sameEmotionLines_of_perm
    (hperm : (lines.filter Keyword.emotion.heads).Perm (others.filter Keyword.emotion.heads))
    (hnodup : ((lines.filter Keyword.emotion.heads).map emotionName).Nodup) :
    SameEmotionLines lines others := by
  intro name
  have hsplit : ∀ xs : List String, xs.filter (givesEmotion name) =
      (xs.filter Keyword.emotion.heads).filter (fun l => emotionName l == name) := by
    intro xs
    rw [List.filter_filter]
    rfl
  have hnames : (others.filter Keyword.emotion.heads).map emotionName |>.Nodup :=
    (hperm.map emotionName).nodup_iff.mp hnodup
  rw [hsplit, hsplit]
  -- two lines for this name differ in name, so there is no order to tell the lists apart
  refine List.Perm.eq_of_pairwise ?_ ((List.pairwise_map.mp hnodup).filter _)
    ((List.pairwise_map.mp hnames).filter _) (hperm.filter _)
  intro a b ha hb hne
  have hab : emotionName a = emotionName b := by
    rw [beq_iff_eq.mp (List.mem_filter.mp ha).2, beq_iff_eq.mp (List.mem_filter.mp hb).2]
  exact absurd hab hne

theorem SameEmotionLines.refl (lines : List String) : SameEmotionLines lines lines :=
  fun _ => rfl

theorem SameEmotionLines.append {more rest : List String} (h : SameEmotionLines lines others)
    (hmore : SameEmotionLines more rest) : SameEmotionLines (lines ++ more) (others ++ rest) := by
  intro name
  rw [List.filter_append, List.filter_append, h, hmore]

theorem filter_eq_of_rest
    (hrest : lines.filter (fun l => !Keyword.emotion.heads l) =
      others.filter (fun l => !Keyword.emotion.heads l))
    {part : String -> Bool} (hpart : ∀ l, part l = true → (!Keyword.emotion.heads l) = true) :
    lines.filter part = others.filter part := by
  rw [← filter_filter_of_imp hpart lines, hrest, filter_filter_of_imp hpart]

theorem not_emotion_of_heads {k : Keyword} (hk : k ≠ .emotion) (line : String)
    (head : k.heads line = true) : (!Keyword.emotion.heads line) = true := by
  rw [Keyword.heads_of_ofLine? (Keyword.heads_iff.mp head)]
  simpa using hk

theorem EmotionLinesReordered.mem (h : EmotionLinesReordered lines others) (hmem : line ∈ others) :
    line ∈ lines := by
  by_cases head : Keyword.emotion.heads line = true
  · rw [mem_iff_mem_sections Keyword.character.heads] at hmem ⊢
    rcases hmem with habove | ⟨q, hq, hplace⟩
    · exact .inl (h.above.mem head habove)
    · obtain ⟨p, hp, hfirst, hsame⟩ := exists_mem_of_forall₂ h.blocks hq
      refine .inr ⟨p, hp, ?_⟩
      rcases hplace with rfl | hbelow
      · exact .inl hfirst.symm
      · exact .inr (hsame.mem head hbelow)
  · have hrest : line ∈ others.filter (fun l => !Keyword.emotion.heads l) :=
      List.mem_filter.mpr ⟨hmem, by simpa using head⟩
    rw [← h.rest] at hrest
    exact List.mem_of_mem_filter hrest

/-- The lines that are open for emotions below some lines have the same ones if just the first of
them, up to the next declaration, are reordered. -/
theorem SameEmotionLines.takeWhile_append (h : SameEmotionLines lines others)
    (hlines : ∀ l ∈ lines, Keyword.character.heads l = false)
    (hothers : ∀ l ∈ others, Keyword.character.heads l = false) (above below : List String) :
    SameEmotionLines
      ((above ++ lines ++ below).takeWhile (fun l => !Keyword.character.heads l))
      ((above ++ others ++ below).takeWhile (fun l => !Keyword.character.heads l)) := by
  induction above with
  | nil =>
    rw [List.nil_append, List.nil_append, List.takeWhile_append_of_pos (by simpa using hlines),
      List.takeWhile_append_of_pos (by simpa using hothers)]
    exact h.append (.refl _)
  | cons a above ih =>
    rw [List.cons_append, List.cons_append, List.cons_append, List.cons_append,
      List.takeWhile_cons, List.takeWhile_cons]
    split
    · exact (SameEmotionLines.refl [a]).append ih
    · exact .refl []

/-- Lines among which no character is declared all belong to one block, whatever is above and below
them. -/
theorem EmotionLinesReordered.of_part
    (hlines : ∀ l ∈ lines, Keyword.character.heads l = false)
    (hrest : lines.filter (fun l => !Keyword.emotion.heads l) =
      others.filter (fun l => !Keyword.emotion.heads l))
    (hsame : SameEmotionLines lines others) (above below : List String) :
    EmotionLinesReordered (above ++ lines ++ below) (above ++ others ++ below) := by
  have hothers : ∀ l ∈ others, Keyword.character.heads l = false := by
    have hfilter := filter_eq_of_rest hrest (not_emotion_of_heads (k := .character) (by decide))
    have hnone : lines.filter Keyword.character.heads = [] := by
      simpa [List.filter_eq_nil_iff] using hlines
    rw [hnone, eq_comm, List.filter_eq_nil_iff] at hfilter
    simpa using hfilter
  refine ⟨?_, hsame.takeWhile_append hlines hothers above below, ?_⟩
  · simp only [List.filter_append, hrest]
  · induction above with
    | nil =>
      rw [List.nil_append, List.nil_append, sections_append_of_forall hlines,
        sections_append_of_forall hothers, List.forall₂_same]
      exact fun part _ => ⟨rfl, .refl part.2⟩
    | cons a above ih =>
      rw [List.cons_append, List.cons_append, List.cons_append, List.cons_append]
      by_cases ha : Keyword.character.heads a = true
      · rw [sections_cons_of_pos ha, sections_cons_of_pos ha]
        exact .cons ⟨rfl, hsame.takeWhile_append hlines hothers above below⟩ ih
      · rw [Bool.not_eq_true] at ha
        rwa [sections_cons_of_neg ha, sections_cons_of_neg ha]

/-- Reordering emotion lines makes no line offend. -/
theorem EmotionLinesReordered.inoffensive (h : EmotionLinesReordered lines others)
    (hlines : Inoffensive lines) : Inoffensive others := by
  obtain ⟨hchoices, hemotions, hreadable⟩ := inoffensive_iff.mp hlines
  refine inoffensive_iff.mpr ⟨?_, ?_, fun line hmem => hreadable line (h.mem hmem)⟩
  · -- scenes and choices are among the lines that stand as they did
    rw [← filter_filter_of_imp (not_emotion_of_heads (by decide)),
      ← takeWhile_filter_of_imp (not_emotion_of_heads (by decide))] at hchoices ⊢
    rwa [← h.rest]
  · rw [List.filter_eq_nil_iff] at hemotions ⊢
    intro line hmem head
    exact hemotions line (h.above.mem head hmem) head

end Lines

/-! Characters -/

section Characters

variable {line : String} {b c : CharacterBlock} {p q : String × List String}

/-- The entry on an emotion line. -/
def emotionEntry (line : String) : String × String :=
  (emotionName line, String.ofList (afterColon line))

theorem eq_of_emotionOfLine {e : EmotionEntry} (h : EmotionEntry.ofLine line = .ok e) :
    (e.name, e.path) = emotionEntry line := by
  rw [EmotionEntry.ofLine] at h
  split at h
  · cases h
  · rw [← Except.ok.inj h]
    rfl

theorem CharacterBlock.ReadFrom.emotions_eq (h : b.ReadFrom p) :
    b.emotions = (p.2.filter Keyword.emotion.heads).map emotionEntry := by
  have hread := h.emotions
  rw [← List.forall₂_eq_eq_eq, List.forall₂_map_left_iff, List.forall₂_map_right_iff] at hread
  rw [← List.map_id b.emotions]
  exact (map_eq_map_of_forall₂ (hread.imp fun _ _ he => (eq_of_emotionOfLine he).symm)).symm

theorem CharacterBlock.ReadFrom.filter_emotions (h : b.ReadFrom p) (name : String) :
    b.emotions.filter (fun e => e.1 == name) =
      (p.2.filter (givesEmotion name)).map emotionEntry := by
  rw [h.emotions_eq, List.filter_map, List.filter_filter]
  rfl

/-- The characters that two blocks declare differ in the order of their entries only, if the blocks
have one declaration and the same emotion lines. -/
theorem CharacterBlock.ReadFrom.reordered (hb : b.ReadFrom p) (hc : c.ReadFrom q)
    (h : p.1 = q.1 ∧ SameEmotionLines p.2 q.2) : b.toCharacter.Reordered c.toCharacter := by
  obtain ⟨hfirst, hsame⟩ := h
  have hdeclaration := hc.declaration
  rw [← hfirst, hb.declaration] at hdeclaration
  have hname : b.name = c.name := congrArg Character.name (Except.ok.inj hdeclaration)
  refine ⟨hname, EmotionTable.perm_ofList ?_⟩
  intro name
  rw [hb.filter_emotions, hc.filter_emotions, hsame]

end Characters

/-! Stories -/

/-- A script that has a story has one when its emotion lines are reordered, and the story is the
same up to the order of entries in emotion tables. -/
theorem parse_of_emotionLinesReordered {script other : String} {story : Story}
    (h : parse script = .ok story)
    (hlines : EmotionLinesReordered (statements script) (statements other)) :
    ∃ story', parse other = .ok story' ∧ story.Reordered story' := by
  obtain ⟨story', hother⟩ : ∃ story', parse other = .ok story' :=
    exists_story_iff.mpr (hlines.inoffensive (exists_story_iff.mp ⟨story, h⟩))
  refine ⟨story', hother, ?_, ?_⟩
  · have hextract : extract concernsScenes script = extract concernsScenes other := by
      refine congrArg "\n".intercalate (filter_eq_of_rest hlines.rest fun l hl => ?_)
      rcases concernsScenes_iff.mp hl with head | head <;>
        simp [Keyword.heads_of_ofLine? head]
    have hscenes := (extracts_of_ok h).1
    rw [hextract, (extracts_of_ok hother).1] at hscenes
    exact (congrArg Story.scenes (Except.ok.inj hscenes)).symm
  · obtain ⟨-, bs, -, hbs, rfl⟩ := exists_blocks_of_parse h
    obtain ⟨-, cs, -, hcs, rfl⟩ := exists_blocks_of_parse hother
    rw [List.forall₂_map_left_iff, List.forall₂_map_right_iff]
    exact forall₂_of_readings (fun _ _ _ _ hb hc => hb.reordered hc) hlines.blocks hbs hcs

end SceneScript
