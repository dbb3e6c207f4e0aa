import SceneScript.Proofs.Html.Landmarks
import SceneScript.Proofs.Report.Markup

set_option autoImplicit false
set_option relaxedAutoImplicit false

/-!
# The landmarks of a report

Which blocks and links stand on the page of a report. The page is read back part by part in the
order in which it is put together, and a link is told by the words or the tag before it. Main
statement: `landmarks_page`.
-/

namespace SceneScript

open Html

/-! Landmarks of a report -/

/-- A landmark with the anchor of a scene's label. -/
def landmarkOf (kind : LandmarkKind) (label : String) : Landmark :=
  ⟨kind, escape label.toList⟩

/-- The link of a choice. -/
def ChoiceRow.landmark (c : ChoiceRow) : Landmark :=
  landmarkOf (if c.dangling then .danglingChoice else .choice) c.target

/-- The links in the block of a scene. -/
def SceneRow.links (s : SceneRow) : List Landmark :=
  ifText s.previous (fun label => [landmarkOf .previous label]) ++
    (ifText s.next (fun label => [landmarkOf .next label]) ++ s.choices.map ChoiceRow.landmark)

/-- The landmarks of the page of a report: the link to its start, and each scene's block before the
links in it. -/
def Report.landmarks (r : Report) : List Landmark :=
  ifText r.start (fun label => [landmarkOf .start label]) ++
    r.scenes.flatMap (fun s => landmarkOf .block s.label :: s.links)

namespace Page

/-! Links -/

theorem linkOpening_in_tag : '<' ∉ linkOpening ∧ '>' ∉ linkOpening := by decide

theorem blockOpening_in_tag : '<' ∉ blockOpening ∧ '>' ∉ blockOpening := by decide

/-- A link is told by its lead, and its own text is no part of the next one's. -/
theorem reads_sceneLink {lead : List Char} (hlead : '<' ∉ lead) (label : String) :
    Reads lead ((sceneLink label).flatMap Fragment.write) [landmarkOf (linkKind lead) label]
      "/a>".toList := by
  have htag := Reads.anchored_page hlead [] List.not_mem_nil linkOpening_in_tag [] rfl label
  rw [landmark?_link, List.append_nil] at htag
  have htext := Reads.value htag.outside label
  have hend := Reads.markup htext.outside "</a>".toList (by decide)
  exact htag.append_page (htext.append_page hend)

theorem shows_startLine (label : String) :
    Shows (startLine label) [landmarkOf .start label] := by
  intro lead hlead
  have hline := Reads.markup hlead "\n        <p>Start scene: ".toList (by decide)
  have hlink := reads_sceneLink hline.outside label
  have hrest : Shows [.markup "</p>\n        "] [] := .markup rfl .nil
  obtain ⟨last, hend⟩ := hrest _ hlink.outside
  exact ⟨last, hline.append_page (hlink.append_page hend)⟩

/-- The tag of a choice's item, which tells whether the choice dangles. -/
def itemTag (dangling : Bool) : List Char :=
  if dangling then "li class=\"dangling\">".toList else "li>".toList

theorem reads_itemTag {lead : List Char} (hlead : '<' ∉ lead) (dangling : Bool) :
    Reads lead
      (([Fragment.markup "\n            <li"] ++
        (showIf dangling [.markup " class=\"dangling\""] ++ [Fragment.markup ">"])).flatMap
          Fragment.write)
      [] (itemTag dangling) := by
  cases dangling
  · exact Reads.quiet hlead "\n            <li>".toList rfl
  · exact Reads.quiet hlead "\n            <li class=\"dangling\">".toList rfl

theorem linkKind_itemTag (dangling : Bool) (rest : List Char) :
    linkKind (itemTag dangling ++ rest) = if dangling then .danglingChoice else .choice := by
  cases dangling <;> rfl

theorem shows_choiceItem (c : ChoiceRow) : Shows (choiceItem c) [c.landmark] := by
  intro lead hlead
  have htag := reads_itemTag hlead c.dangling
  have hlabel := Reads.value htag.outside c.label
  have harrow := Reads.markup hlabel.outside " &rarr; ".toList (by decide)
  have hlink := reads_sceneLink harrow.outside c.target
  have hrest : Shows [.markup "</li>\n            "] [] := .markup rfl .nil
  obtain ⟨last, hend⟩ := hrest _ hlink.outside
  have hkind : linkKind (leadAfter (itemTag c.dangling ++ escape c.label.toList)
      " &rarr; ".toList) = if c.dangling then .danglingChoice else .choice := by
    show linkKind (itemTag c.dangling ++ escape c.label.toList ++ " &rarr; ".toList) = _
    rw [List.append_assoc, linkKind_itemTag]
  rw [hkind] at hlink
  refine ⟨last, ?_⟩
  have hall := htag.append_page (hlabel.append_page
    (harrow.append_page (hlink.append_page hend)))
  simpa [choiceItem, ChoiceRow.landmark] using hall

theorem shows_choiceList (choices : List ChoiceRow) :
    Shows (choiceList choices) (choices.map ChoiceRow.landmark) := by
  unfold choiceList
  refine .of_eq (.flatten_cons (.markup rfl .nil) <|
    .flatten_cons (.flatMap shows_choiceItem choices) <|
    .flatten_cons (.markup rfl .nil) .nil) ?_
  simp [List.map_eq_flatMap]

theorem reads_neighbour {lead : List Char} (hlead : '<' ∉ lead) (label : Option String) :
    ∃ last, (last = "/a>".toList ∨ last = lead ++ "&mdash;".toList) ∧
      Reads lead ((neighbour label).flatMap Fragment.write)
        (ifText label (fun s => [landmarkOf (linkKind lead) s])) last := by
  have hdash := Reads.markup hlead "&mdash;".toList (by decide)
  cases label with
  | none => exact ⟨_, .inr rfl, hdash⟩
  | some s =>
    rw [neighbour, showText, ifText]
    split
    · exact ⟨_, .inr rfl, hdash⟩
    · exact ⟨_, .inl rfl, reads_sceneLink hlead s⟩

/-- Both neighbours of a scene are told by the words before them, whether there is a link between
these or a dash. -/
theorem shows_neighbours (previous next : Option String) :
    Shows ([.markup "</h3>\n        <p class=\"links\">\n            Previous: "] ++
        (neighbour previous ++ ([.markup "\n            |\n            Next: "] ++ neighbour next)))
      (ifText previous (fun s => [landmarkOf .previous s]) ++
        ifText next (fun s => [landmarkOf .next s])) := by
  intro lead hlead
  have hline := Reads.markup hlead
    "</h3>\n        <p class=\"links\">\n            Previous: ".toList (by decide)
  obtain ⟨middle, hmiddle, hprevious⟩ := reads_neighbour hline.outside previous
  have hwords := Reads.markup hprevious.outside
    "\n            |\n            Next: ".toList (by decide)
  obtain ⟨last, -, hnext⟩ := reads_neighbour hwords.outside next
  have hkind : linkKind (leadAfter middle "\n            |\n            Next: ".toList) =
      .next := by
    rcases hmiddle with rfl | rfl
    · rfl
    · rfl
  rw [hkind] at hnext
  exact ⟨last, hline.append_page (hprevious.append_page (hwords.append_page hnext))⟩

theorem shows_conditionNote (condition : String) : Shows (conditionNote condition) [] :=
  .markup rfl <| .value <| .markup rfl .nil

theorem shows_blockStart (label : String) :
    Shows [.markup "\n    <div class=\"scene\" id=\"scene-", .value label,
        .markup "\">\n        <h3>", .value label] [landmarkOf .block label] := by
  intro lead hlead
  have htag := Reads.anchored_page hlead "\n    ".toList (by decide) blockOpening_in_tag
    "\n        <h3>".toList rfl label
  rw [landmark?_block] at htag
  have hlabel := Reads.value htag.outside label
  exact ⟨_, htag.append_page hlabel⟩

/-- A scene without choices has no list of them. -/
theorem shows_choices (choices : List ChoiceRow) :
    Shows (showIf (!choices.isEmpty) (choiceList choices)) (choices.map ChoiceRow.landmark) := by
  refine .of_eq (.showIf (shows_choiceList choices)) ?_
  cases choices <;> rfl

theorem shows_sceneBlock (s : SceneRow) :
    Shows (sceneBlock s) (landmarkOf .block s.label :: s.links) := by
  have hcondition : Shows (showText s.condition conditionNote []) [] :=
    .of_eq (.showText shows_conditionNote .nil s.condition) (ifText_nil s.condition)
  have hcount : Shows [.markup "\n            | Dialogues: ", .value (toString s.dialogueCount),
      .markup "\n        </p>\n        "] [] :=
    .markup rfl <| .value <| .markup rfl .nil
  have hend : Shows [.markup "\n    </div>\n    "] [] := .markup rfl .nil
  have hall := (shows_blockStart s.label).append <| hcondition.append <|
    (shows_neighbours s.previous s.next).append <| hcount.append <|
    (shows_choices s.choices).append hend
  simpa [sceneBlock, SceneRow.links] using hall

/-! Parts without links -/

/-- Each line is outside a tag at its end. -/
theorem shows_markupLines (lines : List String)
    (hlines : lines.all (fun line => isQuiet line.toList) = true) :
    Shows [markupLines lines] [] := by
  intro lead hlead
  rw [List.flatMap_singleton, write_markupLines]
  induction lines generalizing lead with
  | nil =>
    have hnone : '<' ∉ ([] : List Char) := List.not_mem_nil
    exact ⟨_, Reads.text hlead hnone⟩
  | cons line lines ih =>
    rw [List.all_cons, Bool.and_eq_true] at hlines
    have hline := Reads.quiet hlead _ hlines.1
    have hmark : '<' ∉ ['\n'] := by decide
    have hfeed := Reads.text hline.outside hmark
    obtain ⟨last, hrest⟩ := ih hlines.2 _ hfeed.outside
    rw [List.flatMap_cons]
    exact ⟨last, (hline.append hfeed).append hrest⟩

theorem shows_style : Shows [markupLines style] [] := by
  refine shows_markupLines style ?_
  simp only [style, List.all_cons, List.all_nil, Bool.and_true, Bool.and_eq_true]
  and_intros <;> exact isQuiet_ofList rfl

theorem shows_head (r : Report) : Shows (head r) [] := by
  unfold head
  have hlines := shows_markupLines ["<!DOCTYPE html>", "<html lang=\"en\">", "<head>",
    "    <meta charset=\"UTF-8\">",
    "    <meta name=\"viewport\" content=\"width=device-width, initial-scale=1.0\">"]
    (by decide +kernel)
  exact hlines.append <| .markup rfl <| .value <| .markup rfl <| .markup rfl <|
    shows_style.append <| .markup rfl <| .markup rfl <| .value <| .markup rfl .nil

theorem shows_commaSeparated (values : List String) : Shows (commaSeparated values) [] := by
  fun_induction commaSeparated values with
  | case1 => exact .nil
  | case2 s => exact .value .nil
  | case3 s rest _ ih => exact .value (.markup rfl ih)

theorem shows_endingsLine (labels : List String) : Shows (endingsLine labels) [] :=
  .flatten_cons (.markup rfl .nil) <| .flatten_cons (shows_commaSeparated labels) <|
    .flatten_cons (.markup rfl .nil) .nil

theorem shows_statistics (r : Report) :
    Shows (statistics r) (ifText r.start (fun label => [landmarkOf .start label])) := by
  unfold statistics
  refine .of_eq (.flatten_cons
      (.markup rfl <| .value <| .markup rfl <| .value <| .markup rfl <| .value <| .markup rfl <|
        .value <| .markup rfl .nil) <|
    .flatten_cons (.showText shows_startLine .nil r.start) <|
    .flatten_cons (.markup rfl .nil) <|
    .flatten_cons (.showIf (shows_endingsLine r.endings)) <|
    .flatten_cons (.markup rfl .nil) .nil) ?_
  simp

theorem shows_danglingItem (d : DanglingChoice) : Shows (danglingItem d) [] :=
  .markup rfl <| .value <| .markup rfl <| .value <| .markup rfl <| .value <| .markup rfl .nil

theorem shows_danglingList (dangling : List DanglingChoice) :
    Shows (danglingList dangling) [] := by
  unfold danglingList
  have hlines := shows_markupLines ["", "    <div class=\"warning\">",
    "        <h2>Undeclared choice targets</h2>", "        <ul>"] (by decide +kernel)
  refine .of_eq (.flatten_cons (hlines.append <| .markup rfl .nil) <|
    .flatten_cons (.flatMap shows_danglingItem dangling) <|
    .flatten_cons (.markup rfl .nil) .nil) ?_
  simp

theorem shows_warning (r : Report) : Shows (warning r) [] := by
  unfold warning
  refine .of_eq (.flatten_cons (.showIf (shows_danglingList r.dangling)) <|
    .flatten_cons (.markup rfl .nil) .nil) ?_
  simp

theorem shows_emotionItem (e : String × String) : Shows (emotionItem e) [] :=
  .markup rfl <| .value <| .markup rfl <| .value <| .markup rfl .nil

theorem shows_emotionList (emotions : List (String × String)) :
    Shows (emotionList emotions) [] := by
  rw [emotionList]
  split
  · exact .markup rfl .nil
  · refine .of_eq (.flatten_cons (.markup rfl .nil) <|
      .flatten_cons (.flatMap shows_emotionItem emotions) <|
      .flatten_cons (.markup rfl .nil) .nil) ?_
    simp

/-- The block of a character has an anchor too, but not that of a scene. -/
theorem shows_characterBlock (c : CharacterRow) : Shows (characterBlock c) [] := by
  have hstart : Shows [.markup "\n    <div class=\"character\" id=\"character-", .value c.name,
      .markup "\">\n        <h3>"] [] := by
    intro lead hlead
    have hopening : '<' ∉ "div class=\"character\" id=\"character-".toList ∧
        '>' ∉ "div class=\"character\" id=\"character-".toList := by decide
    have htag := Reads.anchored_page hlead "\n    ".toList (by decide) hopening
      "\n        <h3>".toList rfl c.name
    exact ⟨_, htag⟩
  have hname : Shows [.value c.name, .markup "</h3>\n        "] [] := .value <| .markup rfl .nil
  have hend : Shows [.markup "\n    </div>\n    "] [] := .markup rfl .nil
  have hall := hstart.append <| hname.append <| (shows_emotionList c.emotions).append hend
  simpa [characterBlock] using hall

theorem shows_ofReport (r : Report) : Shows (ofReport r) r.landmarks := by
  unfold ofReport
  refine .of_eq (.flatten_cons (shows_head r) <|
    .flatten_cons (shows_statistics r) <|
    .flatten_cons (shows_warning r) <|
    .flatten_cons (.markup rfl .nil) <|
    .flatten_cons (.flatMap shows_sceneBlock r.scenes) <|
    .flatten_cons (.markup rfl .nil) <|
    .flatten_cons (.flatMap shows_characterBlock r.characters) <|
    .flatten_cons (.markup rfl .nil) .nil) ?_
  simp [Report.landmarks]

end Page

/-- The landmarks that are read off a page are those of its report. -/
theorem landmarks_page (s : Story) (title : Option String) (now : Timestamp) :
    landmarks (s.page title now).toList = (Report.ofStory s title now).landmarks := by
  obtain ⟨last, h⟩ := Page.shows_ofReport (Report.ofStory s title now) [] List.not_mem_nil
  rw [toList_page]
  calc
    landmarks ((Page.ofReport (Report.ofStory s title now)).flatMap Fragment.write) =
        (Report.ofStory s title now).landmarks ++ landmarks (last ++ []) := by
      rw [← h.reads [], List.nil_append, List.append_nil]
    _ = (Report.ofStory s title now).landmarks := by
      rw [List.append_nil, landmarks_of_not_mem h.outside, List.append_nil]

end SceneScript
