import SceneScript.Proofs.Script.Declarations
import SceneScript.Proofs.Script.Failure
import SceneScript.Proofs.Script.Independence

set_option autoImplicit false
set_option relaxedAutoImplicit false

/-!
# The history of a draft

What lines do to the blocks of a draft over time, failing lines included. A block stands in a slot
while it is open: lines add to it, until the line that closes it puts it behind the finished ones,
where it stays as it is. Scenes and characters are the two cases of one law, `Slot.history`. Main
statement: `history_of_drafts`.
-/

namespace SceneScript

/-! Slots -/

/-- The place of the open block in a draft: how it is read and where it goes, which lines close it,
and what becomes of it under other lines and under the one that closes it. The laws say that one
line does no more to the slot, and that lines can be taken one by one. -/
structure Slot (α : Type) where
  opened : Draft -> Option α
  finished : Draft -> List α
  closes : String -> Bool
  extend : List String -> α -> α
  close : String -> α -> α
  extend_nil (a : α) : extend [] a = a
  extend_cons (line : String) (lines : List String) (a : α) :
    extend (line :: lines) a = extend lines (extend [line] a)
  keep {d : Draft} {line : String} : closes line = false →
    opened (d.step line).1 = (opened d).map (extend [line]) ∧
      finished (d.step line).1 = finished d
  finish {d : Draft} {line : String} : closes line = true →
    finished (d.step line).1 = finished d ++ ((opened d).map (close line)).toList

/-- What becomes of the open block of a draft under some lines: it stays open and gains what they
say, or the first line that closes it makes it the next finished block for good. -/
inductive Slot.History {α : Type} (slot : Slot α) (d : Draft) (lines : List String) (a : α) : Prop
  | stays (unclosed : ∀ l ∈ lines, slot.closes l = false)
      (opened : slot.opened (d.applyAll lines) = some (slot.extend lines a))
      (unfinished : slot.finished (d.applyAll lines) = slot.finished d)
  | ends {above below : List String} {line : String} (split : lines = above ++ line :: below)
      (unclosed : ∀ l ∈ above, slot.closes l = false) (closes : slot.closes line = true)
      (opened : slot.opened (d.applyAll above) = some (slot.extend above a))
      (unfinished : slot.finished (d.applyAll above) = slot.finished d)
      (finished : slot.finished d ++ [slot.close line (slot.extend above a)] <+:
        slot.finished (d.applyAll lines))

namespace Slot

variable {α : Type} (slot : Slot α)

theorem finished_prefix_step (d : Draft) (line : String) :
    slot.finished d <+: slot.finished (d.step line).1 := by
  by_cases hline : slot.closes line = true
  · rw [slot.finish hline]
    exact List.prefix_append _ _
  · rw [Bool.not_eq_true] at hline
    have hkept := (slot.keep (d := d) hline).2
    exact hkept.symm ▸ List.prefix_refl _

/-- Finished blocks stay as they are, in their places. -/
theorem finished_prefix (d : Draft) (lines : List String) :
    slot.finished d <+: slot.finished (d.applyAll lines) := by
  induction lines generalizing d with
  | nil => exact List.prefix_refl _
  | cons line lines ih => exact (slot.finished_prefix_step d line).trans (ih (d.step line).1)

/-- A block that no line closes stays open and gains what the lines say. -/
theorem applyAll_of_unclosed (d : Draft) {lines : List String}
    (hlines : ∀ l ∈ lines, slot.closes l = false) :
    slot.opened (d.applyAll lines) = (slot.opened d).map (slot.extend lines) ∧
      slot.finished (d.applyAll lines) = slot.finished d := by
  induction lines generalizing d with
  | nil =>
    have hid : slot.extend [] = id := funext slot.extend_nil
    rw [hid, Option.map_id]
    exact ⟨rfl, rfl⟩
  | cons line lines ih =>
    obtain ⟨hline, hrest⟩ := List.forall_mem_cons.mp hlines
    obtain ⟨hopened, hfinished⟩ := slot.keep (d := d) hline
    have hcons : slot.extend (line :: lines) = slot.extend lines ∘ slot.extend [line] :=
      funext (slot.extend_cons line lines)
    rw [hcons, ← Option.map_map, ← hopened, ← hfinished]
    exact ih (d.step line).1 hrest

/-- An open block has a history under whatever lines follow. -/
theorem history {d : Draft} {a : α} (hopen : slot.opened d = some a) (lines : List String) :
    slot.History d lines a := by
  by_cases hclosed : ∃ l ∈ lines, slot.closes l = true
  · -- the history ends at the first line that closes the block
    obtain ⟨line, hfind⟩ := Option.isSome_iff_exists.mp (List.find?_isSome.mpr hclosed)
    obtain ⟨hline, above, below, rfl, habove⟩ := List.find?_eq_some_iff_append.mp hfind
    have hunclosed : ∀ l ∈ above, slot.closes l = false := by simpa using habove
    obtain ⟨hopened, hfinished⟩ := slot.applyAll_of_unclosed d hunclosed
    rw [hopen, Option.map_some] at hopened
    have hstep := slot.finish (d := d.applyAll above) hline
    rw [hopened, hfinished] at hstep
    refine .ends rfl hunclosed hline hopened hfinished ?_
    rw [Draft.applyAll_append]
    exact hstep ▸ slot.finished_prefix ((d.applyAll above).step line).1 below
  · have hunclosed : ∀ l ∈ lines, slot.closes l = false := by simpa using hclosed
    obtain ⟨hopened, hfinished⟩ := slot.applyAll_of_unclosed d hunclosed
    rw [hopen, Option.map_some] at hopened
    exact .stays hunclosed hopened hfinished

end Slot

/-! What lines add -/

/-- What can be read from the lines that are statements of a keyword, in order. -/
def readable {β : Type} (k : Keyword) (read : String -> Except ScriptError β)
    (lines : List String) : List β :=
  (lines.filter k.heads).filterMap (fun line => (read line).toOption)

/-- A scene with more choices below its own. -/
def Scene.addChoices (s : Scene) (more : List Choice) : Scene :=
  { s with choices := if more.isEmpty then s.choices else some (s.choiceList ++ more) }

/-- A character with more emotions, each added or put in the place of the one with its name. -/
def Character.setEmotions (c : Character) (more : List EmotionEntry) : Character :=
  { c with emotions := c.emotions.insertMany (more.map (fun e => (e.name, e.path))) }

section Readable

variable {β : Type} {k : Keyword} {read : String -> Except ScriptError β} {line : String}

theorem readable_cons (k : Keyword) (read : String -> Except ScriptError β) (line : String)
    (lines : List String) :
    readable k read (line :: lines) = readable k read [line] ++ readable k read lines := by
  rw [readable, ← List.singleton_append, List.filter_append, List.filterMap_append]
  rfl

theorem readable_of_ok {b : β} (head : k.heads line = true) (hread : read line = .ok b) :
    readable k read [line] = [b] := by
  simp [readable, head, hread, Except.toOption]

theorem readable_of_error {x : ScriptError} (hread : read line = .error x) :
    readable k read [line] = [] := by
  cases head : k.heads line <;> simp [readable, head, hread, Except.toOption]

theorem readable_of_not_heads (head : k.heads line = false) : readable k read [line] = [] := by
  simp [readable, head]

/-- A half of a draft in which a line changes nothing is one to which it adds what can be read, if
that is nothing. -/
theorem unchanged_of_unread {α : Type} {add : α -> List β -> α} (hadd : ∀ a, add a [] = a)
    (hread : readable k read [line] = []) {o p : Option α} {xs ys : List α}
    (h : (p, ys) = (o, xs)) :
    p = o.map (fun a => add a (readable k read [line])) ∧ ys = xs := by
  obtain ⟨rfl, rfl⟩ := Prod.mk.inj h
  have hid : (fun a => add a []) = id := funext hadd
  rw [hread, hid, Option.map_id]
  exact ⟨rfl, rfl⟩

end Readable

theorem Scene.addChoices_nil (s : Scene) : s.addChoices [] = s := rfl

theorem Scene.addChoices_append (s : Scene) (xs ys : List Choice) :
    s.addChoices (xs ++ ys) = (s.addChoices xs).addChoices ys := by
  cases xs with
  | nil => rfl
  | cons x xs =>
    cases ys with
    | nil => rw [List.append_nil, addChoices_nil]
    | cons y ys => simp [addChoices, choiceList]

theorem Character.setEmotions_nil (c : Character) : c.setEmotions [] = c := rfl

theorem Character.setEmotions_append (c : Character) (xs ys : List EmotionEntry) :
    c.setEmotions (xs ++ ys) = (c.setEmotions xs).setEmotions ys := by
  simp [setEmotions, EmotionTable.insertMany]

/-! The two slots -/

/-- A line declares a scene and has nothing after its colon. -/
def opensScene (line : String) : Bool :=
  Keyword.scene.heads line && !hasInlineText line

namespace Draft

variable {d : Draft} {line : String}

theorem readChoiceLine_of_error {x : ScriptError} (h : Choice.ofLine line = .error x) :
    (d.readChoiceLine line).1 = d := by
  rw [readChoiceLine]
  cases d.openScene <;> simp [readChoice, h]

theorem readChoiceLine_of_ok {c : Choice} (h : Choice.ofLine line = .ok c) :
    (d.readChoiceLine line).1 =
      { d with openScene := d.openScene.map (fun s => s.addChoice c) } := by
  rcases d with ⟨_ | s, openCharacter, scenes, characters⟩
  · rfl
  · simp [readChoiceLine, readChoice, h]

/-- Until a line opens another scene, the open one gains the choices that can be read. -/
theorem scenes_step_of_not_opensScene (h : opensScene line = false) :
    (d.step line).1.openScene =
        d.openScene.map (fun s => s.addChoices (readable .choice Choice.ofLine [line])) ∧
      (d.step line).1.scenes = d.scenes := by
  by_cases hline : concernsScenes line = true
  · rcases concernsScenes_iff.mp hline with head | head
    · have hinline : hasInlineText line = true := by
        simpa [opensScene, Keyword.heads_iff.mpr head] using h
      have hstep : (d.step line).1 = d := by
        rw [step, head]
        show (d.readSceneLine line).1 = d
        rw [readSceneLine, sceneOfLine_eq_error_iff.mpr ⟨hinline, rfl⟩]
      rw [hstep]
      exact unchanged_of_unread Scene.addChoices_nil
        (readable_of_not_heads (Keyword.heads_of_ofLine? head)) rfl
    · have hstep : (d.step line).1 = (d.readChoiceLine line).1 := by rw [step, head]
      rw [hstep]
      cases hread : Choice.ofLine line with
      | error x =>
        rw [readChoiceLine_of_error hread]
        exact unchanged_of_unread Scene.addChoices_nil (readable_of_error hread) rfl
      | ok c =>
        rw [readChoiceLine_of_ok hread, readable_of_ok (Keyword.heads_iff.mpr head) hread]
        exact ⟨rfl, rfl⟩
  · rw [Bool.not_eq_true] at hline
    have hchoice : Keyword.choice.heads line = false := by
      rw [concernsScenes, Bool.or_eq_false_iff] at hline
      exact hline.2
    exact unchanged_of_unread Scene.addChoices_nil (readable_of_not_heads hchoice)
      (isHalf_sceneHalf.frame hline)

/-- A line that opens a scene finishes the open one, chained to the new one. -/
theorem scenes_step_of_opensScene (h : opensScene line = true) :
    (d.step line).1.scenes =
      d.scenes ++ (d.openScene.map (chainTo (declaredLabel line))).toList := by
  rw [opensScene, Bool.and_eq_true, Keyword.heads_iff, Bool.not_eq_true'] at h
  obtain ⟨head, hinline⟩ := h
  cases hread : Scene.ofLine line with
  | error x =>
    rw [(sceneOfLine_eq_error_iff.mp hread).1] at hinline
    cases hinline
  | ok s =>
    have hstep : (d.step line).1 = d.startScene s := by
      rw [step, head]
      show (d.readSceneLine line).1 = d.startScene s
      rw [readSceneLine, hread]
    have hlabel : s.label = declaredLabel line :=
      congrArg Scene.label (eq_of_sceneOfLine hread).2
    rw [hstep]
    cases hopen : d.openScene with
    | none => rw [startScene_of_none hopen, Option.map_none, Option.toList_none, List.append_nil]
    | some r => rw [startScene_of_some hopen, hlabel, Option.map_some, Option.toList_some]

theorem readEmotionLine_of_error {x : ScriptError} (h : EmotionEntry.ofLine line = .error x) :
    (d.readEmotionLine line).1 = d := by
  rw [readEmotionLine]
  cases d.openCharacter <;> simp [readEmotion, h]

theorem readEmotionLine_of_ok {e : EmotionEntry} (h : EmotionEntry.ofLine line = .ok e) :
    (d.readEmotionLine line).1 =
      { d with openCharacter := d.openCharacter.map (fun c => c.setEmotion e) } := by
  rcases d with ⟨openScene, _ | c, scenes, characters⟩
  · rfl
  · simp [readEmotionLine, readEmotion, h]

/-- Until the line of another character, the open one gains the emotions that can be read. -/
theorem characters_step_of_not_heads (h : Keyword.character.heads line = false) :
    (d.step line).1.openCharacter =
        d.openCharacter.map
          (fun c => c.setEmotions (readable .emotion EmotionEntry.ofLine [line])) ∧
      (d.step line).1.characters = d.characters := by
  cases hemotion : Keyword.emotion.heads line with
  | false =>
    have hline : concernsCharacters line = false := by
      rw [concernsCharacters, h, hemotion, Bool.or_false]
    exact unchanged_of_unread Character.setEmotions_nil (readable_of_not_heads hemotion)
      (isHalf_characterHalf.frame hline)
  | true =>
    have hstep : (d.step line).1 = (d.readEmotionLine line).1 := by
      rw [step, Keyword.heads_iff.mp hemotion]
    rw [hstep]
    cases hread : EmotionEntry.ofLine line with
    | error x =>
      rw [readEmotionLine_of_error hread]
      exact unchanged_of_unread Character.setEmotions_nil (readable_of_error hread) rfl
    | ok e =>
      rw [readEmotionLine_of_ok hread, readable_of_ok hemotion hread]
      exact ⟨rfl, rfl⟩

/-- The line of a character finishes the open one, whether it can be read or not. -/
theorem characters_step_of_heads (h : Keyword.character.heads line = true) :
    (d.step line).1.characters = d.characters ++ (d.openCharacter.map id).toList := by
  rw [Option.map_id, id, step, Keyword.heads_iff.mp h]
  show (d.readCharacterLine line).1.characters = d.characters ++ d.openCharacter.toList
  rw [readCharacterLine]
  cases Character.ofLine line <;> rfl

end Draft

/-- Scenes gain choices. The line of another scene closes a scene and chains it, if it can be
read. -/
def sceneSlot : Slot Scene where
  opened := Draft.openScene
  finished := Draft.scenes
  closes := opensScene
  extend lines s := s.addChoices (readable .choice Choice.ofLine lines)
  close line := Draft.chainTo (declaredLabel line)
  extend_nil := Scene.addChoices_nil
  extend_cons line lines s := by rw [readable_cons, Scene.addChoices_append]
  keep := Draft.scenes_step_of_not_opensScene
  finish := Draft.scenes_step_of_opensScene

/-- Characters gain emotions. The line of another character closes a character, also if it cannot be
read. -/
def characterSlot : Slot Character where
  opened := Draft.openCharacter
  finished := Draft.characters
  closes := Keyword.character.heads
  extend lines c := c.setEmotions (readable .emotion EmotionEntry.ofLine lines)
  close _ := id
  extend_nil := Character.setEmotions_nil
  extend_cons line lines c := by rw [readable_cons, Character.setEmotions_append]
  keep := Draft.characters_step_of_not_heads
  finish := Draft.characters_step_of_heads

/-- Lines for `busyDraft`: a choice, a scene and a character that cannot be read, a scene and a
choice of its own. -/
def busyLines : List String :=
  ["    choice<c>: Go", "scene c: text", "character Cy: text", "scene c:", "    choice<b>: Back"]

end SceneScript
