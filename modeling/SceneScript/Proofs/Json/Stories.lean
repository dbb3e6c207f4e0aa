import SceneScript.Proofs.CommandLine.Product
import SceneScript.Proofs.EmotionTable
import SceneScript.Proofs.Json.RoundTrip

set_option autoImplicit false
set_option relaxedAutoImplicit false

/-!
# Stories read back from JSON

Each part of a story is read back from the value that it is written as, and so is the story from the
file of a run that asks for JSON. Main statement: `jsonFile_lossless`.
-/

namespace SceneScript

/-! Parts of a story -/

section

variable {α : Type}

/-- Items that are each read back from their values are read back from the list of these. -/
theorem Json.listOf?_map {item? : Json → Option α} {toJson : α → Json}
    (hitem : ∀ x, item? (toJson x) = some x) (xs : List α) :
    (Json.list (xs.map toJson)).listOf? item? = some xs := by
  induction xs with
  | nil => rfl
  | cons x xs ih =>
    rw [Json.listOf?] at ih ⊢
    rw [List.map_cons, List.mapM_cons, hitem, ih]
    rfl

theorem Json.nullableText?_ofText? (s : Option String) :
    (Json.ofText? s).nullableText? = some s := by
  cases s <;> rfl

end

theorem Dialogue.ofJson?_toJson (d : Dialogue) : Dialogue.ofJson? d.toJson = some d :=
  rfl

theorem Choice.ofJson?_toJson (c : Choice) : Choice.ofJson? c.toJson = some c :=
  rfl

/-- A missing list of choices and an empty one are kept apart. -/
theorem Choice.listOfJson?_toJson (choices : Option (List Choice)) :
    Choice.listOfJson?
      (match choices with
        | none => .null
        | some choices => .list (choices.map Choice.toJson)) = some choices := by
  cases choices with
  | none => rfl
  | some choices =>
    rw [Choice.listOfJson?, Json.listOf?_map Choice.ofJson?_toJson, Option.map_some]
    intro h
    cases h

theorem Scene.ofJson?_toJson (s : Scene) : Scene.ofJson? s.toJson = some s := by
  have hcondition := Json.nullableText?_ofText? s.condition
  have hnext := Json.nullableText?_ofText? s.next
  have hprevious := Json.nullableText?_ofText? s.previous
  have hdialogues := Json.listOf?_map Dialogue.ofJson?_toJson s.dialogues
  have hchoices := Choice.listOfJson?_toJson s.choices
  have hfields : Scene.ofJson? s.toJson = do
      let condition ← (Json.ofText? s.condition).nullableText?
      let next ← (Json.ofText? s.next).nullableText?
      let previous ← (Json.ofText? s.previous).nullableText?
      let dialogues ← (Json.list (s.dialogues.map Dialogue.toJson)).listOf? Dialogue.ofJson?
      let choices ← Choice.listOfJson?
        (match s.choices with
          | none => .null
          | some choices => .list (choices.map Choice.toJson))
      return ⟨s.label, condition, next, previous, s.isEnding, dialogues, choices⟩ := rfl
  rw [hfields, hcondition, hnext, hprevious, hdialogues, hchoices]
  rfl

theorem EmotionTable.ofJson?_toJson (t : EmotionTable) :
    EmotionTable.ofJson? t.toJson = some t := by
  have hfields : ∀ entries : List (String × String),
      (entries.map (fun entry => (entry.1, Json.text entry.2))).mapM Json.textField? =
        some entries := by
    intro entries
    induction entries with
    | nil => rfl
    | cons entry entries ih =>
      rw [List.map_cons, List.mapM_cons, ih]
      rfl
  rw [EmotionTable.toJson, EmotionTable.ofJson?, hfields, Option.map_some, ofList_entries]

theorem Character.ofJson?_toJson (c : Character) : Character.ofJson? c.toJson = some c := by
  have hemotions := EmotionTable.ofJson?_toJson c.emotions
  have hfields : Character.ofJson? c.toJson = do
      let emotions ← EmotionTable.ofJson? c.emotions.toJson
      return ⟨c.name, emotions⟩ := rfl
  rw [hfields, hemotions]
  rfl

theorem Story.ofJson?_toJson (story : Story) : Story.ofJson? story.toJson = some story := by
  have hscenes := Json.listOf?_map Scene.ofJson?_toJson story.scenes
  have hcharacters := Json.listOf?_map Character.ofJson?_toJson story.characters
  have hfields : Story.ofJson? story.toJson = do
      let scenes ← (Json.list (story.scenes.map Scene.toJson)).listOf? Scene.ofJson?
      let characters ←
        (Json.list (story.characters.map Character.toJson)).listOf? Character.ofJson?
      return ⟨scenes, characters⟩ := rfl
  rw [hfields, hscenes, hcharacters]
  rfl

/-! Files -/

open CommandLine

/-- A run that asks for JSON has a text to write, and it is ASCII. It is read as the value that the
story is written as, the story is read from that value, and no other story is written to the same
bytes, whatever else the runs are asked for. -/
theorem jsonFile_lossless {o : Options} (ho : o.format = .json) (now : Timestamp) (story : Story) :
    ∃ text : String, o.product now story = .ok text ∧ Json.IsAscii text.toList ∧
      Json.parse? text = some story.toJson ∧
      Story.ofJson? story.toJson = some story ∧
      ∀ (o' : Options) (now' : Timestamp) (story' : Story) (text' : String), o'.format = .json →
        o'.product now' story' = .ok text' → text'.toUTF8 = text.toUTF8 → story' = story := by
  refine ⟨story.toJson.print, Options.product_of_json ho now story, Json.isAscii_print _,
    Json.parse?_print _, Story.ofJson?_toJson story, ?_⟩
  intro o' now' story' text' ho' hproduct hbytes
  rw [Options.product_of_json ho'] at hproduct
  rw [← Except.ok.inj hproduct, String.toUTF8_eq_toByteArray, String.toUTF8_eq_toByteArray,
    String.toByteArray_inj] at hbytes
  have hjson : story'.toJson = story.toJson := by
    have hread := Json.parse?_print story'.toJson
    rw [hbytes, Json.parse?_print] at hread
    exact (Option.some.inj hread).symm
  have hstory := Story.ofJson?_toJson story'
  rw [hjson, Story.ofJson?_toJson] at hstory
  exact (Option.some.inj hstory).symm

/-- A story with a mark of JSON, a control character and a character beyond the first 65536 in its
texts, an empty list of choices, and a character whose emotions are not in alphabetical order. -/
def markedStory : Story where
  scenes :=
    [{ label := "\"\\\x7f", choices := some [] },
      { label := "𝄞", condition := some "", isEnding := true,
        dialogues := [⟨"é", "joy", "\n"⟩], choices := some [⟨"", "\x7b"⟩] }]
  characters := [{ name := "é", emotions := .ofList [("joy", "b.png"), ("anger", "a.png")] }]

/-- The story with no list of choices in place of the empty one. -/
def unlistedStory : Story :=
  { markedStory with
    scenes := markedStory.scenes.map (fun s => { s with choices := s.choices.filter (· != []) }) }

theorem jsonFile_lossless_of_markedStory :
    let o : Options := ⟨.ofText "in", some (.ofText "out"), .json, none, .unset⟩
    ∃ text other : String, o.product default markedStory = .ok text ∧
      o.product default unlistedStory = .ok other ∧ Json.IsAscii text.toList ∧
      Json.parse? text = some markedStory.toJson ∧
      Story.ofJson? markedStory.toJson = some markedStory ∧ other.toUTF8 ≠ text.toUTF8 := by
  intro o
  obtain ⟨text, htext, hascii, hparsed, hstory, hsame⟩ :=
    jsonFile_lossless (o := o) rfl default markedStory
  have hdistinct : unlistedStory ≠ markedStory := by decide
  have hother := Options.product_of_json (o := o) rfl default unlistedStory
  exact ⟨text, _, htext, hother, hascii, hparsed, hstory,
    fun h => hdistinct (hsame o default unlistedStory _ rfl hother h)⟩

end SceneScript
