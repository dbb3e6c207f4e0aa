import Mathlib.Data.List.Forall2
import SceneScript.Proofs.EmotionTable
import SceneScript.Proofs.Script.Step
import SceneScript.Script.Writer

set_option autoImplicit false
set_option relaxedAutoImplicit false

/-!
# Sections and blocks

A script read without a state: its statements fall into sections, one for each declaration, a
section is one block of the script, and the blocks in a row say which scenes and characters there
are. Main statements: `linkAll_chained` says that scenes which each know the ones beside them become
the declared ones when the choices are taken into account, and `forall₂_sections_append` reads the
sections of two lists, one below the other, from those of each.
-/

namespace SceneScript

/-! Sections -/

/-- The parts of a list that start at the elements satisfying `opens`: each such element with what
follows it up to the next one. What stands before the first is in no part. -/
def sections {α : Type} (opens : α -> Bool) : List α -> List (α × List α)
  | [] => []
  | a :: rest =>
    if opens a then (a, rest.takeWhile (fun b => !opens b)) :: sections opens rest
    else sections opens rest

theorem sections_cons_of_pos {α : Type} {opens : α -> Bool} {a : α} (h : opens a = true)
    (rest : List α) :
    sections opens (a :: rest) =
      (a, rest.takeWhile (fun b => !opens b)) :: sections opens rest := by
  rw [sections, if_pos h]

theorem sections_cons_of_neg {α : Type} {opens : α -> Bool} {a : α} (h : opens a = false)
    (rest : List α) : sections opens (a :: rest) = sections opens rest := by
  rw [sections, if_neg (by simp [h])]

/-- The sections of a list start with its opening elements, in order. -/
theorem map_fst_sections {α : Type} (opens : α -> Bool) (xs : List α) :
    (sections opens xs).map Prod.fst = xs.filter opens := by
  induction xs with
  | nil => rfl
  | cons a rest ih =>
    by_cases h : opens a = true
    · rw [sections_cons_of_pos h, List.filter_cons_of_pos h, List.map_cons, ih]
    · rw [Bool.not_eq_true] at h
      rw [sections_cons_of_neg h, List.filter_cons_of_neg (by simp [h]), ih]

theorem sections_append_of_forall {α : Type} {opens : α -> Bool} {xs : List α}
    (h : ∀ x ∈ xs, opens x = false) (ys : List α) :
    sections opens (xs ++ ys) = sections opens ys := by
  induction xs with
  | nil => rfl
  | cons x xs ih =>
    obtain ⟨hx, hxs⟩ := List.forall_mem_cons.mp h
    rw [List.cons_append, sections_cons_of_neg hx, ih hxs]

/-- An element of a list stands above the first opening one, or else in a section. -/
theorem mem_iff_mem_sections {α : Type} (opens : α -> Bool) {x : α} {xs : List α} :
    x ∈ xs ↔
      x ∈ xs.takeWhile (fun a => !opens a) ∨
        ∃ part ∈ sections opens xs, x = part.1 ∨ x ∈ part.2 := by
  induction xs with
  | nil => simp [sections]
  | cons a rest ih =>
    by_cases ha : opens a = true
    · rw [sections_cons_of_pos ha, List.mem_cons, ih]
      simp [ha, or_assoc]
    · rw [Bool.not_eq_true] at ha
      rw [sections_cons_of_neg ha, List.mem_cons, ih]
      simp [ha, or_assoc]

/-- A list that is put together from sections has these sections. -/
theorem sections_flatMap {α β : Type} {opens : β -> Bool} {first : α -> β} {others : α -> List β}
    (hfirst : ∀ a, opens (first a) = true) (hothers : ∀ a, ∀ b ∈ others a, opens b = false)
    (xs : List α) :
    sections opens (xs.flatMap (fun a => first a :: others a)) =
      xs.map (fun a => (first a, others a)) := by
  induction xs with
  | nil => rfl
  | cons a xs ih =>
    have hothers' : ∀ b ∈ others a, (!opens b) = true := by simpa using hothers a
    have hnext : (xs.flatMap (fun a => first a :: others a)).takeWhile (fun b => !opens b) =
        [] := by
      cases xs with
      | nil => rfl
      | cons x xs => simp [hfirst x]
    rw [List.flatMap_cons, List.cons_append, sections_cons_of_pos (hfirst a),
      List.takeWhile_append_of_pos hothers', hnext, sections_append_of_forall (hothers a), ih,
      List.append_nil, List.map_cons]

/-- Nothing of a kind stands above the first opening element, if each element of the kind is below
an opening one. -/
theorem filter_takeWhile_eq_nil {α : Type} {opens keep : α -> Bool} {xs : List α}
    (h : ∀ above a below, xs = above ++ a :: below → keep a = true →
      ∃ b ∈ above, opens b = true) :
    (xs.takeWhile (fun b => !opens b)).filter keep = [] := by
  rw [List.filter_eq_nil_iff]
  intro a ha hkeep
  obtain ⟨above, below, hsplit⟩ := List.append_of_mem ha
  have hxs : xs = above ++ a :: (below ++ xs.dropWhile (fun b => !opens b)) := by
    rw [← List.cons_append, ← List.append_assoc, ← hsplit, List.takeWhile_append_dropWhile]
  obtain ⟨b, hb, hopens⟩ := h above a _ hxs hkeep
  have hclosed : b ∈ xs.takeWhile (fun b => !opens b) := by
    rw [hsplit]
    exact List.mem_append_left _ hb
  have hnot := List.mem_takeWhile_imp hclosed
  rw [hopens] at hnot
  cases hnot

/-- The sections of two lists, one below the other, are those of the first and those of the second.
Just the last section of the first list has more in it, which is nothing to `R`. -/
theorem forall₂_sections_append {α β : Type} {opens : α -> Bool} {R : β -> α × List α -> Prop}
    {xs ys : List α} {bs cs : List β}
    (hR : ∀ b a part, R b (a, part) → R b (a, part ++ ys.takeWhile (fun y => !opens y)))
    (hxs : List.Forall₂ R bs (sections opens xs)) (hys : List.Forall₂ R cs (sections opens ys)) :
    List.Forall₂ R (bs ++ cs) (sections opens (xs ++ ys)) := by
  induction xs generalizing bs with
  | nil =>
    cases hxs
    exact hys
  | cons a xs ih =>
    rw [List.cons_append]
    by_cases ha : opens a = true
    · rw [sections_cons_of_pos ha] at hxs
      rw [sections_cons_of_pos ha]
      obtain ⟨b, bs, hb, hbs, rfl⟩ := List.forall₂_cons_right_iff.mp hxs
      refine .cons ?_ (ih hbs)
      rw [List.takeWhile_append]
      split
      · rename_i hall
        have hpart : xs.takeWhile (fun x => !opens x) = xs :=
          (List.takeWhile_prefix _).eq_of_length hall
        rw [hpart] at hb
        exact hR b a xs hb
      · exact hb
    · rw [Bool.not_eq_true] at ha
      rw [sections_cons_of_neg ha] at hxs
      rw [sections_cons_of_neg ha]
      exact ih hxs

/-! Blocks -/

/-- A block is what a section says of a scene: its declaration gives the label, the condition and
the target, and its choice lines give the choices. -/
structure SceneBlock.ReadFrom (b : SceneBlock) (part : String × List String) : Prop where
  declaration : Scene.ofLine part.1 =
    .ok { label := b.label, condition := b.condition, next := b.target }
  choices : (part.2.filter Keyword.choice.heads).map Choice.ofLine = b.choices.map Except.ok

/-- A block is what a section says of a character: its declaration gives the name, and its emotion
lines give the emotions. -/
structure CharacterBlock.ReadFrom (b : CharacterBlock) (part : String × List String) : Prop where
  declaration : Character.ofLine part.1 = .ok { name := b.name }
  emotions : (part.2.filter Keyword.emotion.heads).map EmotionEntry.ofLine =
    b.emotions.map (fun e => .ok ⟨e.1, e.2⟩)

theorem SceneBlock.ReadFrom.unique {b c : SceneBlock} {part : String × List String}
    (hb : b.ReadFrom part) (hc : c.ReadFrom part) : b = c := by
  have hscene := Except.ok.inj (hb.declaration.symm.trans hc.declaration)
  have hchoices : b.choices = c.choices :=
    List.map_injective_iff.mpr (fun _ _ h => Except.ok.inj h) (hb.choices.symm.trans hc.choices)
  rcases b with ⟨label, condition, target, choices⟩
  rcases c with ⟨label', condition', target', choices'⟩
  obtain rfl : label = label' := congrArg Scene.label hscene
  obtain rfl : condition = condition' := congrArg Scene.condition hscene
  obtain rfl : target = target' := congrArg Scene.next hscene
  obtain rfl : choices = choices' := hchoices
  rfl

theorem SceneBlock.ReadFrom.append {b : SceneBlock} {line : String} {part more : List String}
    (h : b.ReadFrom (line, part)) (hmore : more.filter Keyword.choice.heads = []) :
    b.ReadFrom (line, part ++ more) where
  declaration := h.declaration
  choices := by
    rw [List.filter_append, hmore, List.append_nil]
    exact h.choices

theorem CharacterBlock.ReadFrom.unique {b c : CharacterBlock} {part : String × List String}
    (hb : b.ReadFrom part) (hc : c.ReadFrom part) : b = c := by
  have hcharacter := Except.ok.inj (hb.declaration.symm.trans hc.declaration)
  have hinjective : Function.Injective (fun e : String × String =>
      (.ok ⟨e.1, e.2⟩ : Except ScriptError EmotionEntry)) := by
    intro e f h
    obtain ⟨hname, hpath⟩ := EmotionEntry.mk.inj (Except.ok.inj h)
    exact Prod.ext hname hpath
  have hemotions : b.emotions = c.emotions :=
    List.map_injective_iff.mpr hinjective (hb.emotions.symm.trans hc.emotions)
  rcases b with ⟨name, emotions⟩
  rcases c with ⟨name', emotions'⟩
  obtain rfl : name = name' := congrArg Character.name hcharacter
  obtain rfl : emotions = emotions' := hemotions
  rfl

theorem CharacterBlock.ReadFrom.append {b : CharacterBlock} {line : String}
    {part more : List String} (h : b.ReadFrom (line, part))
    (hmore : more.filter Keyword.emotion.heads = []) : b.ReadFrom (line, part ++ more) where
  declaration := h.declaration
  emotions := by
    rw [List.filter_append, hmore, List.append_nil]
    exact h.emotions

/-- The scenes that blocks declare. The next scene is the one that a block names, or else that of
the block below. The previous scene is that of the first block with a choice that leads here, or
else that of the block above. -/
def declaredScenes (blocks : List SceneBlock) : List Scene :=
  blocks.mapIdx (fun i b =>
    { label := b.label
      condition := b.condition
      next := b.target.or (blocks[i + 1]?.map SceneBlock.label)
      previous :=
        ((blocks.find? (fun p => p.choices.any (fun c => c.target == b.label))).map
          SceneBlock.label).or (if i = 0 then none else blocks[i - 1]?.map SceneBlock.label)
      choices := if b.choices.isEmpty then none else some b.choices })

/-- The character that a block declares. Of two entries for one emotion the later path stays. -/
def CharacterBlock.toCharacter (b : CharacterBlock) : Character :=
  { name := b.name, emotions := EmotionTable.ofList b.emotions }

/-! Emotions -/

theorem CharacterBlock.setEmotion_toCharacter (b : CharacterBlock) (e : String × String) :
    b.toCharacter.setEmotion ⟨e.1, e.2⟩ =
      { b with emotions := b.emotions ++ [e] }.toCharacter := by
  rw [toCharacter, Character.setEmotion, toCharacter, EmotionTable.ofList_concat]

/-! Scenes between their neighbours -/

/-- The scene of a block between two others, apart from all choices of other scenes. -/
def SceneBlock.toScene (b : SceneBlock) (previous next : Option String) : Scene :=
  { label := b.label
    condition := b.condition
    next := b.target.or next
    previous
    choices := if b.choices.isEmpty then none else some b.choices }

/-- The scenes of some blocks, each linked with the ones beside it. -/
def chained (previous : Option String) : List SceneBlock -> List Scene
  | [] => []
  | b :: rest =>
    b.toScene previous (rest.head?.map SceneBlock.label) :: chained (some b.label) rest

theorem SceneBlock.choiceList_toScene (b : SceneBlock) (previous next : Option String) :
    (b.toScene previous next).choiceList = b.choices := by
  rcases b with ⟨label, condition, target, _ | ⟨c, cs⟩⟩ <;> rfl

theorem SceneBlock.addChoice_toScene (b : SceneBlock) (previous next : Option String)
    (c : Choice) :
    (b.toScene previous next).addChoice c =
      { b with choices := b.choices ++ [c] }.toScene previous next := by
  rw [Scene.addChoice, choiceList_toScene]
  simp [toScene]

theorem SceneBlock.chainTo_toScene (b : SceneBlock) (previous : Option String) (label : String) :
    Draft.chainTo label (b.toScene previous none) = b.toScene previous (some label) := by
  rcases b with ⟨own, condition, _ | target, choices⟩ <;> rfl

theorem getElem?_chained (previous : Option String) (blocks : List SceneBlock) (i : Nat) :
    (chained previous blocks)[i]? = blocks[i]?.map (fun b =>
      b.toScene (if i = 0 then previous else blocks[i - 1]?.map SceneBlock.label)
        (blocks[i + 1]?.map SceneBlock.label)) := by
  induction blocks generalizing previous i with
  | nil => simp [chained]
  | cons b rest ih =>
    cases i with
    | zero => simp [chained, List.head?_eq_getElem?]
    | succ i =>
      rw [chained, List.getElem?_cons_succ, ih]
      cases i <;> simp

theorem parent?_chained (previous : Option String) (blocks : List SceneBlock) (label : String) :
    parent? (chained previous blocks) label =
      (blocks.find? (fun p => p.choices.any (fun c => c.target == label))).map
        SceneBlock.label := by
  induction blocks generalizing previous with
  | nil => rfl
  | cons b rest ih =>
    have hlead : ∀ next, (b.toScene previous next).leadsTo label =
        b.choices.any (fun c => c.target == label) := by
      intro next
      rw [Scene.leadsTo, b.choiceList_toScene]
    simp only [parent?] at ih
    rw [parent?, chained, List.find?_cons, List.find?_cons, hlead]
    split
    · rfl
    · exact ih (some b.label)

/-- Chained scenes become the declared ones when the choices are taken into account. -/
theorem linkAll_chained (blocks : List SceneBlock) :
    linkAll (chained none blocks) = declaredScenes blocks := by
  apply List.ext_getElem?
  intro i
  rw [linkAll, List.getElem?_map, getElem?_chained, declaredScenes, List.getElem?_mapIdx,
    Option.map_map]
  congr 1
  funext b
  rw [Function.comp_apply, linkBack, parent?_chained]
  simp only [SceneBlock.toScene]
  split
  · rename_i hparent
    rw [hparent]
    rfl
  · rename_i hparent
    rw [hparent]
    rfl

theorem getElem?_declaredScenes (blocks : List SceneBlock) (i : Nat) :
    (declaredScenes blocks)[i]? = blocks[i]?.map (fun b =>
      b.toScene
        (((blocks.find? (fun p => p.choices.any (fun c => c.target == b.label))).map
          SceneBlock.label).or (if i = 0 then none else blocks[i - 1]?.map SceneBlock.label))
        (blocks[i + 1]?.map SceneBlock.label)) := by
  rw [declaredScenes, List.getElem?_mapIdx]
  rfl

theorem map_label_declaredScenes (blocks : List SceneBlock) :
    (declaredScenes blocks).map Scene.label = blocks.map SceneBlock.label := by
  apply List.ext_getElem?
  intro i
  rw [List.getElem?_map, getElem?_declaredScenes, Option.map_map, List.getElem?_map]
  rfl

theorem parent?_declaredScenes (blocks : List SceneBlock) (label : String) :
    parent? (declaredScenes blocks) label =
      (blocks.find? (fun p => p.choices.any (fun c => c.target == label))).map
        SceneBlock.label := by
  rw [← linkAll_chained, parent?_linkAll, parent?_chained]

/-! Declarations -/

theorem SceneBlock.exists_of_ofLine {line : String} {s : Scene} (h : Scene.ofLine line = .ok s) :
    ∃ b : SceneBlock, s = b.toScene none none ∧ b.choices = [] ∧
      Scene.ofLine line = .ok { label := b.label, condition := b.condition, next := b.target } := by
  have hs : s = { label := s.label, condition := s.condition, next := s.next } := by
    rw [(eq_of_sceneOfLine h).2]
  refine ⟨⟨s.label, s.condition, s.next, []⟩, ?_, rfl, h.trans (congrArg Except.ok hs)⟩
  rw [toScene, Option.or_none]
  exact hs

namespace Draft

variable {d : Draft}

/-- A new scene has the open one before it, whether it has choices or not. -/
theorem openScene_startScene (d : Draft) (b : SceneBlock) :
    (d.startScene (b.toScene none none)).openScene =
      some (b.toScene (d.openScene.map Scene.label) none) := by
  rcases hopen : d.openScene with _ | r
  · rw [startScene_of_none hopen]
    rfl
  · rw [startScene_of_some hopen]
    rfl

theorem scenes_startScene_of_none (hopen : d.openScene = none) (s : Scene) :
    (d.startScene s).scenes = d.scenes := by
  rw [startScene_of_none hopen]

theorem scenes_startScene_of_open {b : SceneBlock} {previous : Option String}
    (hopen : d.openScene = some (b.toScene previous none)) (s : Scene) :
    (d.startScene s).scenes = d.scenes ++ [b.toScene previous (some s.label)] := by
  rw [startScene_of_some hopen, SceneBlock.chainTo_toScene]

end Draft

end SceneScript
