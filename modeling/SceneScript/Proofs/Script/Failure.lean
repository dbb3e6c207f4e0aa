import SceneScript.Proofs.Script.Offence

set_option autoImplicit false
set_option relaxedAutoImplicit false

/-!
# What a failing line leaves

A line that fails leaves a draft as it was, but for the line of a character: it has finished the
open character, and no character is open until such a line can be read. Main statement:
`failed_step_by_keyword`.
-/

namespace SceneScript

/-- A line declares a character and has nothing after its colon. -/
def OpensCharacter (line : String) : Prop :=
  Keyword.ofLine? line = some .character ∧ hasInlineText line = false

instance (line : String) : Decidable (OpensCharacter line) :=
  inferInstanceAs (Decidable (_ ∧ _))

theorem OpensCharacter.exists_read {line : String} (h : OpensCharacter line) :
    ∃ c, Character.ofLine line = .ok c := by
  cases hread : Character.ofLine line with
  | error x =>
    have hinline := (characterOfLine_eq_error_iff.mp hread).1
    rw [h.2] at hinline
    cases hinline
  | ok c => exact ⟨c, rfl⟩

namespace Draft

variable {d : Draft} {line : String}

theorem step_emotion_of_closed (hclosed : d.openCharacter = none)
    (head : Keyword.ofLine? line = some .emotion) :
    d.step line = (d, some { cause := .emotionOutsideCharacter, line }) := by
  rw [step, head]
  show d.readEmotionLine line = _
  rw [readEmotionLine, hclosed]
  rfl

/-- Nothing but a character line that can be read opens a character. -/
theorem openCharacter_step_of_closed (hclosed : d.openCharacter = none)
    (hline : ¬ OpensCharacter line) : (d.step line).1.openCharacter = none := by
  rcases hstep : d.step line with ⟨e, _ | x⟩
  · rcases (advance_of_step hstep).character_half with ⟨c, hk, hread, -, -⟩ |
      ⟨c, entry, -, -, hopen, -⟩ | ⟨-, -, hkept, -⟩
    · refine absurd ⟨Keyword.heads_iff.mp hk, ?_⟩ hline
      rw [← Bool.not_eq_true]
      intro hinline
      rw [characterOfLine_eq_error_iff.mpr ⟨hinline, rfl⟩] at hread
      cases hread
    · rw [hclosed] at hopen
      cases hopen
    · exact hkept.trans hclosed
  · show e.openCharacter = none
    rw [eq_of_step_error hstep]
    split
    · rfl
    · exact hclosed

theorem openCharacter_applyAll_of_closed {lines : List String} (hclosed : d.openCharacter = none)
    (hlines : ∀ l ∈ lines, ¬ OpensCharacter l) : (d.applyAll lines).openCharacter = none := by
  induction lines generalizing d with
  | nil => exact hclosed
  | cons line lines ih =>
    obtain ⟨hline, hrest⟩ := List.forall_mem_cons.mp hlines
    exact ih (openCharacter_step_of_closed hclosed hline) hrest

theorem step_character_of_closed (hclosed : d.openCharacter = none) (h : OpensCharacter line) :
    ∃ c, Character.ofLine line = .ok c ∧
      d.step line = ({ d with openCharacter := some c }, none) := by
  obtain ⟨c, hread⟩ := h.exists_read
  refine ⟨c, hread, ?_⟩
  rw [step, h.1]
  show d.readCharacterLine line = _
  rw [readCharacterLine, hread, finishCharacter, hclosed]
  simp

end Draft

/-- A failing line leaves a draft as it was, unless it is the line of a character. In that case it
has finished the open character and left the scenes alone. From then on emotion lines fail because
no character is open, whatever other lines come between, until a character line can be read. -/
theorem failed_step_by_keyword {d e : Draft} {line : String} {x : ScriptError}
    (h : d.step line = (e, some x)) :
    (Keyword.ofLine? line ≠ some .character → e = d) ∧
    (Keyword.ofLine? line = some .character →
      e = d.finishCharacter ∧
      (e.openScene = d.openScene ∧ e.scenes = d.scenes) ∧
      (e.openCharacter = none ∧ e.characters = d.characters ++ d.openCharacter.toList) ∧
      ∀ lines, (∀ l ∈ lines, ¬ OpensCharacter l) →
        (∀ l, Keyword.ofLine? l = some .emotion →
          (e.applyAll lines).step l =
            (e.applyAll lines, some { cause := .emotionOutsideCharacter, line := l })) ∧
        ∀ l, OpensCharacter l →
          ∃ c, Character.ofLine l = .ok c ∧
            (e.applyAll lines).step l =
              ({ e.applyAll lines with openCharacter := some c }, none)) := by
  have he := Draft.eq_of_step_error h
  constructor
  · intro hother
    rwa [if_neg (fun hk => hother (Keyword.heads_iff.mp hk))] at he
  · intro hcharacter
    rw [if_pos (Keyword.heads_iff.mpr hcharacter)] at he
    subst he
    refine ⟨rfl, ⟨rfl, rfl⟩, ⟨rfl, rfl⟩, ?_⟩
    intro lines hlines
    have hclosed : (d.finishCharacter.applyAll lines).openCharacter = none :=
      Draft.openCharacter_applyAll_of_closed rfl hlines
    exact ⟨fun l hl => Draft.step_emotion_of_closed hclosed hl,
      fun l hl => Draft.step_character_of_closed hclosed hl⟩

/-- A draft with an open scene, which has neither choices nor a next scene, an open character with
an emotion, and finished ones. -/
def busyDraft : Draft :=
  { openScene := some { label := "b", previous := some "a" }
    openCharacter := some { name := "Al", emotions := .ofList [("sad", "s.png")] }
    scenes := [{ label := "a", next := some "b" }]
    characters := [{ name := "Bo" }] }

theorem failed_steps_of_busyDraft :
    ((busyDraft.step "    choice: Go").2 =
        some { cause := .choiceWithoutTarget, line := "    choice: Go" } ∧
      (busyDraft.step "    choice: Go").1 = busyDraft) ∧
    ((busyDraft.step "character Cy: text").2 =
        some { cause := .inlineText "characters", line := "character Cy: text" } ∧
      (busyDraft.step "character Cy: text").1 = busyDraft.finishCharacter) ∧
    ((busyDraft.finishCharacter.applyAll ["scene c:", "character Cy: text"]).step
      "    emotion shy: h.png").2 =
        some { cause := .emotionOutsideCharacter, line := "    emotion shy: h.png" } := by
  have hchoice : (busyDraft.step "    choice: Go").2 =
      some { cause := .choiceWithoutTarget, line := "    choice: Go" } := by
    decide +kernel
  have hcharacter : (busyDraft.step "character Cy: text").2 =
      some { cause := .inlineText "characters", line := "character Cy: text" } := by
    decide +kernel
  obtain ⟨hkept, -⟩ := failed_step_by_keyword (Prod.ext rfl hchoice)
  obtain ⟨-, hfinished⟩ := failed_step_by_keyword (Prod.ext rfl hcharacter)
  obtain ⟨he, -, -, hlater⟩ := hfinished (by decide +kernel)
  obtain ⟨hemotion, -⟩ := hlater ["scene c:", "character Cy: text"] (by decide +kernel)
  refine ⟨⟨hchoice, hkept (by decide +kernel)⟩, ⟨hcharacter, he⟩, ?_⟩
  rw [← he, hemotion _ (by decide +kernel)]

end SceneScript
