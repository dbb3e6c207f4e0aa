import SceneScript.Proofs.Html.Marks
import SceneScript.Report.Page

set_option autoImplicit false
set_option relaxedAutoImplicit false

/-!
# The markup of a report

What a report shows cannot change the markup of its page: which markup there is depends on the shape
of the report alone. Main statement: `page_markup_by_shape`.
-/

namespace SceneScript

open Html

/-! Shapes -/

/-- What a scene decides of the markup of a page: which of its texts are there, and which of its
choices dangle. -/
structure SceneShape where
  condition : Bool
  previous : Bool
  next : Bool
  choices : List Bool
  deriving DecidableEq

def SceneRow.shape (s : SceneRow) : SceneShape where
  condition := hasText s.condition
  previous := hasText s.previous
  next := hasText s.next
  choices := s.choices.map ChoiceRow.dangling

/-- What a report decides of the markup of its page: its numbers of things and which of its texts
are there. -/
structure ReportShape where
  scenes : List SceneShape
  danglingCount : Nat
  start : Bool
  endings : Bool
  emotionCounts : List Nat
  deriving DecidableEq

def Report.shape (r : Report) : ReportShape where
  scenes := r.scenes.map SceneRow.shape
  danglingCount := r.dangling.length
  start := hasText r.start
  endings := !r.endings.isEmpty
  emotionCounts := r.characters.map (fun c => c.emotions.length)

namespace Page

/-! Marks of the parts of a page -/

theorem pageMarks_sceneLink (label other : String) :
    pageMarks (sceneLink label) = pageMarks (sceneLink other) := by
  simp only [sceneLink, pageMarks_markup, pageMarks_value]

theorem pageMarks_head (r q : Report) : pageMarks (head r) = pageMarks (head q) := by
  simp only [head, headAround, pageMarks_markup, pageMarks_value]

theorem pageMarks_startLine (label other : String) :
    pageMarks (startLine label) = pageMarks (startLine other) := by
  simp only [startLine, pageMarks_flatten_cons, pageMarks_sceneLink label other]

/-- The commas between values are no marks. -/
theorem pageMarks_commaSeparated (values : List String) :
    pageMarks (commaSeparated values) = [] := by
  fun_induction commaSeparated values with
  | case1 => rfl
  | case2 s => rw [pageMarks_value]; rfl
  | case3 s rest _ ih => rw [pageMarks_value, pageMarks_markup, ih]; decide

theorem pageMarks_endingsLine (labels others : List String) :
    pageMarks (endingsLine labels) = pageMarks (endingsLine others) := by
  simp only [endingsLine, pageMarks_flatten_cons, pageMarks_commaSeparated]

theorem pageMarks_statistics {r q : Report} (hstart : hasText r.start = hasText q.start)
    (hendings : (!r.endings.isEmpty) = !q.endings.isEmpty) :
    pageMarks (statistics r) = pageMarks (statistics q) := by
  simp only [statistics, pageMarks_flatten_cons, pageMarks_markup, pageMarks_value]
  rw [pageMarks_showText pageMarks_startLine hstart, hendings,
    pageMarks_showIf (pageMarks_endingsLine r.endings q.endings)]

theorem pageMarks_danglingItem (d e : DanglingChoice) :
    pageMarks (danglingItem d) = pageMarks (danglingItem e) := by
  simp only [danglingItem, pageMarks_markup, pageMarks_value]

theorem pageMarks_warning {r q : Report} (h : r.dangling.length = q.dangling.length) :
    pageMarks (warning r) = pageMarks (warning q) := by
  have hkeys : r.dangling.map (fun _ => ()) = q.dangling.map (fun _ => ()) := by
    rw [List.map_const', List.map_const', h]
  have hitems : pageMarks (r.dangling.flatMap danglingItem) =
      pageMarks (q.dangling.flatMap danglingItem) :=
    pageMarks_flatMap (fun d e _ => pageMarks_danglingItem d e) hkeys
  have hlist : pageMarks (danglingList r.dangling) = pageMarks (danglingList q.dangling) := by
    simp only [danglingList, pageMarks_flatten_cons, hitems]
  simp only [warning, pageMarks_flatten_cons]
  rw [isEmpty_eq_of_map_eq hkeys, pageMarks_showIf hlist]

theorem pageMarks_choiceItem {c d : ChoiceRow} (h : c.dangling = d.dangling) :
    pageMarks (choiceItem c) = pageMarks (choiceItem d) := by
  simp only [choiceItem, pageMarks_flatten_cons, pageMarks_markup, pageMarks_value, h,
    pageMarks_sceneLink c.target d.target]

theorem pageMarks_conditionNote (condition other : String) :
    pageMarks (conditionNote condition) = pageMarks (conditionNote other) := by
  simp only [conditionNote, pageMarks_markup, pageMarks_value]

theorem pageMarks_neighbour {a b : Option String} (h : hasText a = hasText b) :
    pageMarks (neighbour a) = pageMarks (neighbour b) :=
  pageMarks_showText pageMarks_sceneLink h _

theorem pageMarks_sceneBlock {s t : SceneRow} (h : s.shape = t.shape) :
    pageMarks (sceneBlock s) = pageMarks (sceneBlock t) := by
  obtain ⟨hcondition, hprevious, hnext, hchoices⟩ := SceneShape.mk.inj h
  have hitems : pageMarks (s.choices.flatMap choiceItem) =
      pageMarks (t.choices.flatMap choiceItem) :=
    pageMarks_flatMap (fun _ _ => pageMarks_choiceItem) hchoices
  have hlist : pageMarks (choiceList s.choices) = pageMarks (choiceList t.choices) := by
    simp only [choiceList, pageMarks_flatten_cons, hitems]
  simp only [sceneBlock, pageMarks_flatten_cons, pageMarks_markup, pageMarks_value]
  rw [pageMarks_showText pageMarks_conditionNote hcondition, pageMarks_neighbour hprevious,
    pageMarks_neighbour hnext, isEmpty_eq_of_map_eq hchoices, pageMarks_showIf hlist]

theorem pageMarks_emotionItem (e f : String × String) :
    pageMarks (emotionItem e) = pageMarks (emotionItem f) := by
  simp only [emotionItem, pageMarks_markup, pageMarks_value]

theorem pageMarks_characterBlock {c d : CharacterRow} (h : c.emotions.length = d.emotions.length) :
    pageMarks (characterBlock c) = pageMarks (characterBlock d) := by
  have hkeys : c.emotions.map (fun _ => ()) = d.emotions.map (fun _ => ()) := by
    rw [List.map_const', List.map_const', h]
  have hitems : pageMarks (c.emotions.flatMap emotionItem) =
      pageMarks (d.emotions.flatMap emotionItem) :=
    pageMarks_flatMap (fun e f _ => pageMarks_emotionItem e f) hkeys
  have hlist : pageMarks (emotionList c.emotions) = pageMarks (emotionList d.emotions) := by
    rw [emotionList, emotionList, isEmpty_eq_of_map_eq hkeys]
    split
    · rfl
    · simp only [pageMarks_flatten_cons, hitems]
  simp only [characterBlock, pageMarks_flatten_cons, pageMarks_markup, pageMarks_value, hlist]

theorem pageMarks_ofReport {r q : Report} (h : r.shape = q.shape) :
    pageMarks (ofReport r) = pageMarks (ofReport q) := by
  obtain ⟨hscenes, hdangling, hstart, hendings, hemotions⟩ := ReportShape.mk.inj h
  have hblocks : pageMarks (r.scenes.flatMap sceneBlock) =
      pageMarks (q.scenes.flatMap sceneBlock) :=
    pageMarks_flatMap (fun _ _ => pageMarks_sceneBlock) hscenes
  have hcharacters : pageMarks (r.characters.flatMap characterBlock) =
      pageMarks (q.characters.flatMap characterBlock) :=
    pageMarks_flatMap (fun _ _ => pageMarks_characterBlock) hemotions
  simp only [ofReport, body, pageMarks_flatten_cons]
  rw [pageMarks_head r q, pageMarks_statistics hstart hendings, pageMarks_warning hdangling,
    hblocks, hcharacters]

/-! References of the parts of a page -/

theorem write_markupLines (lines : List String) :
    (markupLines lines).write = lines.flatMap (fun line => line.toList ++ ['\n']) := by
  rw [markupLines, Fragment.write, joinLines, String.toList_join, List.flatMap_map]
  simp [String.toList_append]

theorem wellReferenced_markupLines {lines : List String} {page : List Fragment}
    (hlines : lines.all (fun line => Html.isReferenced line.toList) = true)
    (h : WellReferenced page) : WellReferenced (Page.markupLines lines :: page) := by
  refine List.forall_mem_cons.mpr ⟨?_, h⟩
  show Html.isReferenced (markupLines lines).write = true
  rw [write_markupLines]
  apply isReferenced_flatMap
  intro line hline
  exact isReferenced_append (List.all_eq_true.mp hlines line hline) (by decide)

theorem wellReferenced_sceneLink (label : String) : WellReferenced (sceneLink label) :=
  .markup rfl <| .value <| .markup rfl <| .value <| .markup rfl .nil

theorem wellReferenced_danglingItem (d : DanglingChoice) : WellReferenced (danglingItem d) :=
  .markup rfl <| .value <| .markup rfl <| .value <| .markup rfl <| .value <| .markup rfl .nil

theorem wellReferenced_head (r : Report) : WellReferenced (head r) := by
  unfold head
  refine wellReferenced_markupLines ?_ <| .markup rfl <| .value <| .markup rfl <| .markup rfl <|
    wellReferenced_markupLines ?_ <| .markup rfl <| .markup rfl <| .value <| .markup rfl .nil
  · simp only [List.all_cons, List.all_nil, Bool.and_true, Bool.and_eq_true]
    and_intros <;> exact isReferenced_ofList rfl
  · simp only [style, List.all_cons, List.all_nil, Bool.and_true, Bool.and_eq_true]
    and_intros <;> exact isReferenced_ofList rfl

theorem wellReferenced_startLine (label : String) : WellReferenced (startLine label) :=
  .flatten_cons (.markup rfl .nil) <| .flatten_cons (wellReferenced_sceneLink label) <|
    .flatten_cons (.markup rfl .nil) .nil

theorem wellReferenced_commaSeparated (values : List String) :
    WellReferenced (commaSeparated values) := by
  fun_induction commaSeparated values with
  | case1 => exact .nil
  | case2 s => exact .value .nil
  | case3 s rest _ ih => exact .value (.markup rfl ih)

theorem wellReferenced_endingsLine (labels : List String) :
    WellReferenced (endingsLine labels) :=
  .flatten_cons (.markup rfl .nil) <| .flatten_cons (wellReferenced_commaSeparated labels) <|
    .flatten_cons (.markup rfl .nil) .nil

theorem wellReferenced_statistics (r : Report) : WellReferenced (statistics r) :=
  .flatten_cons
      (.markup rfl <| .value <| .markup rfl <| .value <| .markup rfl <| .value <| .markup rfl <|
        .value <| .markup rfl .nil) <|
    .flatten_cons (.showText wellReferenced_startLine .nil) <|
    .flatten_cons (.markup rfl .nil) <|
    .flatten_cons (.showIf (wellReferenced_endingsLine r.endings)) <|
    .flatten_cons (.markup rfl .nil) .nil

theorem wellReferenced_danglingList (dangling : List DanglingChoice) :
    WellReferenced (danglingList dangling) := by
  unfold danglingList
  refine .flatten_cons (wellReferenced_markupLines ?_ <| .markup rfl .nil) <|
    .flatten_cons (.flatMap wellReferenced_danglingItem dangling) <|
    .flatten_cons (.markup rfl .nil) .nil
  simp only [List.all_cons, List.all_nil, Bool.and_true, Bool.and_eq_true]
  and_intros <;> exact isReferenced_ofList rfl

theorem wellReferenced_warning (r : Report) : WellReferenced (warning r) :=
  .flatten_cons (.showIf (wellReferenced_danglingList r.dangling)) <|
    .flatten_cons (.markup rfl .nil) .nil

theorem wellReferenced_choiceItem (c : ChoiceRow) : WellReferenced (choiceItem c) :=
  .flatten_cons (.markup rfl .nil) <|
    .flatten_cons (.showIf (.markup rfl .nil)) <|
    .flatten_cons (.markup rfl <| .value <| .markup rfl .nil) <|
    .flatten_cons (wellReferenced_sceneLink c.target) <|
    .flatten_cons (.markup rfl .nil) .nil

theorem wellReferenced_choiceList (choices : List ChoiceRow) :
    WellReferenced (choiceList choices) :=
  .flatten_cons (.markup rfl .nil) <|
    .flatten_cons (.flatMap wellReferenced_choiceItem choices) <|
    .flatten_cons (.markup rfl .nil) .nil

theorem wellReferenced_conditionNote (condition : String) :
    WellReferenced (conditionNote condition) :=
  .markup rfl <| .value <| .markup rfl .nil

theorem wellReferenced_neighbour (label : Option String) : WellReferenced (neighbour label) :=
  .showText wellReferenced_sceneLink (.markup rfl .nil)

theorem wellReferenced_sceneBlock (s : SceneRow) : WellReferenced (sceneBlock s) :=
  .flatten_cons (.markup rfl <| .value <| .markup rfl <| .value .nil) <|
    .flatten_cons (.showText wellReferenced_conditionNote .nil) <|
    .flatten_cons (.markup rfl .nil) <|
    .flatten_cons (wellReferenced_neighbour s.previous) <|
    .flatten_cons (.markup rfl .nil) <|
    .flatten_cons (wellReferenced_neighbour s.next) <|
    .flatten_cons (.markup rfl <| .value <| .markup rfl .nil) <|
    .flatten_cons (.showIf (wellReferenced_choiceList s.choices)) <|
    .flatten_cons (.markup rfl .nil) .nil

theorem wellReferenced_emotionItem (e : String × String) : WellReferenced (emotionItem e) :=
  .markup rfl <| .value <| .markup rfl <| .value <| .markup rfl .nil

theorem wellReferenced_emotionList (emotions : List (String × String)) :
    WellReferenced (emotionList emotions) := by
  rw [emotionList]
  split
  · exact .markup rfl .nil
  · exact .flatten_cons (.markup rfl .nil) <|
      .flatten_cons (.flatMap wellReferenced_emotionItem emotions) <|
      .flatten_cons (.markup rfl .nil) .nil

theorem wellReferenced_characterBlock (c : CharacterRow) : WellReferenced (characterBlock c) :=
  .flatten_cons (.markup rfl <| .value <| .markup rfl <| .value <| .markup rfl .nil) <|
    .flatten_cons (wellReferenced_emotionList c.emotions) <|
    .flatten_cons (.markup rfl .nil) .nil

theorem wellReferenced_ofReport (r : Report) : WellReferenced (ofReport r) :=
  .flatten_cons (wellReferenced_head r) <|
    .flatten_cons (wellReferenced_statistics r) <|
    .flatten_cons (wellReferenced_warning r) <|
    .flatten_cons (.markup rfl .nil) <|
    .flatten_cons (.flatMap wellReferenced_sceneBlock r.scenes) <|
    .flatten_cons (.markup rfl .nil) <|
    .flatten_cons (.flatMap wellReferenced_characterBlock r.characters) <|
    .flatten_cons (.markup rfl .nil) .nil

end Page

theorem toList_page (s : Story) (title : Option String) (now : Timestamp) :
    (s.page title now).toList =
      (Page.ofReport (Report.ofStory s title now)).flatMap Fragment.write := by
  rw [Story.page, render, String.toList_ofList]

/-- Reports of one shape have pages with the same marks in the same order, whatever their texts
are, and each ampersand of a page starts a character reference. -/
theorem page_markup_by_shape :
    (∀ (s t : Story) (title other : Option String) (now later : Timestamp),
      (Report.ofStory s title now).shape = (Report.ofStory t other later).shape →
        marks (s.page title now).toList = marks (t.page other later).toList) ∧
    ∀ (s : Story) (title : Option String) (now : Timestamp) (before after : List Char),
      (s.page title now).toList = before ++ '&' :: after →
        ∃ r ∈ references, r.toList <+: '&' :: after := by
  constructor
  · intro s t title other now later hshape
    rw [toList_page, toList_page]
    exact Page.pageMarks_ofReport hshape
  · intro s title now before after hpage
    have hreferenced : isReferenced (s.page title now).toList = true := by
      rw [toList_page]
      apply isReferenced_flatMap
      intro f hf
      exact isReferenced_write (Page.wellReferenced_ofReport _ f hf)
    exact exists_reference hreferenced hpage

/-- A story without special characters. -/
def plainStory : Story :=
  { scenes := [{ label := "a", condition := some "k", choices := some [⟨"Go", "b"⟩] }]
    characters := [{ name := "Al", emotions := .ofList [("sad", "s.png")] }] }

/-- A story of the same shape, whose texts are written like markup. -/
def hostileStory : Story :=
  { scenes :=
      [{ label := "\"><script>", condition := some "&lt;", choices := some [⟨"</li>", "&"⟩] }]
    characters := [{ name := "<b", emotions := .ofList [("' onclick=", "</code>")] }] }

theorem page_markup_of_hostileStory :
    (Report.ofStory plainStory none default).shape =
        (Report.ofStory hostileStory (some "</title>") default).shape ∧
      marks (plainStory.page none default).toList =
        marks (hostileStory.page (some "</title>") default).toList ∧
      ∃ before after,
        (hostileStory.page (some "</title>") default).toList = before ++ '&' :: after ∧
          ∃ r ∈ references, r.toList <+: '&' :: after := by
  have hshape : (Report.ofStory plainStory none default).shape =
      (Report.ofStory hostileStory (some "</title>") default).shape := by
    decide +kernel
  have hmem : '&' ∈ (hostileStory.page (some "</title>") default).toList := by
    rw [toList_page, List.mem_flatMap]
    exact ⟨.markup "&mdash;", by decide +kernel, by decide⟩
  obtain ⟨before, after, hpage⟩ := List.append_of_mem hmem
  exact ⟨hshape, page_markup_by_shape.1 _ _ _ _ _ _ hshape, before, after, hpage,
    page_markup_by_shape.2 _ _ _ _ _ hpage⟩

end SceneScript
