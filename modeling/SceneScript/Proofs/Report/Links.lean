import SceneScript.Proofs.Report.Dangling
import SceneScript.Proofs.Report.Landmarks
import SceneScript.Proofs.Script.Declarations

set_option autoImplicit false
set_option relaxedAutoImplicit false

/-!
# The links of a report

Where the links on the page of a parsed story lead. A report on such a story is coherent: the scenes
that it names are its own, but for next ones that a script names itself. Since equal anchors are
those of equal labels, a link resolves if and only if its label is that of a scene. Main statement:
`links_of_page`.
-/

namespace SceneScript

open Html

/-! Sections of a page -/

theorem mem_ifText {t : Option String} {found : String -> List Landmark} {m : Landmark}
    (h : m ∈ ifText t found) : ∃ s, t = some s ∧ m ∈ found s := by
  cases t with
  | none => cases h
  | some s =>
    rw [ifText] at h
    split at h
    · cases h
    · exact ⟨s, rfl, h⟩

/-- What a link in the block of a scene leads to. -/
theorem SceneRow.mem_links {s : SceneRow} {m : Landmark} (h : m ∈ s.links) :
    (∃ label, s.previous = some label ∧ m = landmarkOf .previous label) ∨
      (∃ label, s.next = some label ∧ m = landmarkOf .next label) ∨
      ∃ c ∈ s.choices, m = c.landmark := by
  rw [links, List.mem_append, List.mem_append, List.mem_map] at h
  rcases h with h | h | ⟨c, hc, rfl⟩
  · obtain ⟨label, hlabel, hm⟩ := mem_ifText h
    exact .inl ⟨label, hlabel, List.mem_singleton.mp hm⟩
  · obtain ⟨label, hlabel, hm⟩ := mem_ifText h
    exact .inr (.inl ⟨label, hlabel, List.mem_singleton.mp hm⟩)
  · exact .inr (.inr ⟨c, hc, rfl⟩)

theorem SceneRow.label_of_next {s : SceneRow} {m : Landmark} (h : m ∈ s.links)
    (hkind : m.kind = .next) : ∃ label, s.next = some label ∧ m = landmarkOf .next label := by
  rcases mem_links h with ⟨label, -, rfl⟩ | hnext | ⟨⟨label, target, dangling⟩, -, rfl⟩
  · cases hkind
  · exact hnext
  · cases dangling <;> cases hkind

theorem SceneRow.isBlock_links {s : SceneRow} {m : Landmark} (h : m ∈ s.links) :
    m.isBlock = false := by
  rcases mem_links h with ⟨label, -, rfl⟩ | ⟨label, -, rfl⟩ | ⟨c, -, rfl⟩
  · rfl
  · rfl
  · rcases c with ⟨label, target, _ | _⟩ <;> rfl

/-- The page falls into the blocks of the scenes. -/
theorem sections_landmarks (r : Report) :
    sections Landmark.isBlock r.landmarks =
      r.scenes.map (fun s => (landmarkOf .block s.label, s.links)) := by
  have hstart : ∀ m ∈ ifText r.start (fun label => [landmarkOf .start label]),
      m.isBlock = false := by
    intro m hm
    obtain ⟨label, -, hlabel⟩ := mem_ifText hm
    rw [List.mem_singleton.mp hlabel]
    rfl
  rw [Report.landmarks, sections_append_of_forall hstart,
    sections_flatMap (fun _ => rfl) (fun _ _ => SceneRow.isBlock_links)]

/-! Labels that links lead to -/

/-- What a report says of its scenes holds of them: it starts at a scene, has scenes before others,
and calls those choices dangling that lead to none. -/
structure Report.Coherent (r : Report) : Prop where
  start : ∀ label, r.start = some label → label ∈ r.scenes.map SceneRow.label
  previous : ∀ s ∈ r.scenes, ∀ label, s.previous = some label →
    label ∈ r.scenes.map SceneRow.label
  choices : ∀ s ∈ r.scenes, ∀ c ∈ s.choices,
    c.dangling = true ↔ c.target ∉ r.scenes.map SceneRow.label

/-- A previous scene is a scene of the story, whether it has a choice that leads here or stands
above. -/
theorem mem_labels_of_previous {script : String} {story : Story} (h : parse script = .ok story)
    {s : Scene} (hs : s ∈ story.scenes) {label : String} (hlabel : s.previous = some label) :
    label ∈ story.scenes.map Scene.label := by
  obtain ⟨blocks, characters, -, -, rfl⟩ := exists_blocks_of_parse h
  obtain ⟨i, hi⟩ := List.mem_iff_getElem?.mp hs
  rw [getElem?_declaredScenes] at hi
  obtain ⟨b, -, rfl⟩ := Option.map_eq_some_iff.mp hi
  rw [map_label_declaredScenes]
  rcases Option.or_eq_some_iff.mp hlabel with hparent | ⟨-, habove⟩
  · obtain ⟨p, hp, rfl⟩ := Option.map_eq_some_iff.mp hparent
    exact List.mem_map_of_mem (List.mem_of_find?_eq_some hp)
  · split at habove
    · cases habove
    · obtain ⟨a, ha, rfl⟩ := Option.map_eq_some_iff.mp habove
      exact List.mem_map_of_mem (List.mem_of_getElem? ha)

/-- A scene whose line names no next one goes on to the scene below it. -/
theorem next_of_namesNoNext {script : String} {story : Story} (h : parse script = .ok story)
    {i : Nat} {line : String} {s : Scene} (hline : (declarations .scene script)[i]? = some line)
    (hs : story.scenes[i]? = some s) (hnone : NamesNoNext line) :
    s.next = (story.scenes.map Scene.label)[i + 1]? := by
  obtain ⟨blocks, characters, hblocks, -, rfl⟩ := exists_blocks_of_parse h
  have htargets := (label_and_target_of_readFrom hblocks).2
  rw [getElem?_declaredScenes] at hs
  obtain ⟨b, hb, rfl⟩ := Option.map_eq_some_iff.mp hs
  have htarget : (blocks.map SceneBlock.target)[i]? = some none := by
    rw [htargets, List.getElem?_map, hline, Option.map_some, nonEmpty?_of_namesNoNext hnone]
  rw [List.getElem?_map, hb, Option.map_some] at htarget
  rw [map_label_declaredScenes, List.getElem?_map, SceneBlock.toScene, Option.some.inj htarget,
    Option.none_or]

theorem coherent_ofStory {script : String} {story : Story} (h : parse script = .ok story)
    (title : Option String) (now : Timestamp) : (Report.ofStory story title now).Coherent where
  start label hlabel := by
    obtain ⟨s, hs, rfl⟩ := Option.map_eq_some_iff.mp hlabel
    rw [map_label_ofStory]
    exact List.mem_map_of_mem (List.mem_of_mem_head? hs)
  previous row hrow label hlabel := by
    obtain ⟨s, hs, rfl⟩ := List.mem_map.mp hrow
    rw [map_label_ofStory]
    exact mem_labels_of_previous h hs hlabel
  choices row hrow choice hchoice := by
    obtain ⟨s, hs, rfl⟩ := List.mem_map.mp hrow
    obtain ⟨c, hc, rfl⟩ := List.mem_map.mp hchoice
    rw [map_label_ofStory]
    exact contains_lost_iff hs hc

/-! Links of a report -/

/-- The blocks of a report are told apart by the labels of its scenes. -/
theorem block_mem_landmarks_iff (r : Report) (label : String) :
    (⟨.block, escape label.toList⟩ : Landmark) ∈ r.landmarks ↔
      label ∈ r.scenes.map SceneRow.label := by
  have hblocks : r.landmarks.filter Landmark.isBlock =
      r.scenes.map (fun s => landmarkOf .block s.label) := by
    rw [← map_fst_sections, sections_landmarks, List.map_map]
    rfl
  have hblock : (⟨.block, escape label.toList⟩ : Landmark) ∈ r.landmarks ↔
      ⟨.block, escape label.toList⟩ ∈ r.landmarks.filter Landmark.isBlock := by
    rw [List.mem_filter]
    exact (and_iff_left rfl).symm
  rw [hblock, hblocks, List.mem_map, List.mem_map]
  constructor
  · rintro ⟨s, hs, heq⟩
    have htext := escape_injective (congrArg Landmark.anchor heq)
    exact ⟨s, hs, String.toList_inj.mp htext⟩
  · rintro ⟨s, hs, rfl⟩
    exact ⟨s, hs, rfl⟩

/-- What a landmark of a report is. -/
theorem Report.mem_landmarks {r : Report} {m : Landmark} (h : m ∈ r.landmarks) :
    (∃ label, r.start = some label ∧ m = landmarkOf .start label) ∨
      ∃ s ∈ r.scenes, m = landmarkOf .block s.label ∨ m ∈ s.links := by
  rw [landmarks, List.mem_append, List.mem_flatMap] at h
  rcases h with h | ⟨s, hs, h⟩
  · obtain ⟨label, hlabel, hm⟩ := mem_ifText h
    exact .inl ⟨label, hlabel, List.mem_singleton.mp hm⟩
  · exact .inr ⟨s, hs, List.mem_cons.mp h⟩

namespace Report.Coherent

variable {r : Report} {m : Landmark}

/-- Each link of a coherent report is where a link belongs, and a choice dangles if and only if it
leads to no block. A next scene is left open. -/
theorem link (hr : r.Coherent) (h : m ∈ r.landmarks) :
    match m.kind with
    | .block | .next => True
    | .start | .previous | .choice => ⟨.block, m.anchor⟩ ∈ r.landmarks
    | .danglingChoice => ⟨.block, m.anchor⟩ ∉ r.landmarks
    | .stray => False := by
  rcases mem_landmarks h with ⟨label, hlabel, rfl⟩ | ⟨s, hs, rfl | hlink⟩
  · exact (block_mem_landmarks_iff r label).mpr (hr.start label hlabel)
  · trivial
  · rcases SceneRow.mem_links hlink with ⟨label, hlabel, rfl⟩ | ⟨label, -, rfl⟩ | ⟨c, hc, rfl⟩
    · exact (block_mem_landmarks_iff r label).mpr (hr.previous s hs label hlabel)
    · trivial
    · have hchoice := hr.choices s hs c hc
      have hblock := block_mem_landmarks_iff r c.target
      rcases c with ⟨label, target, dangling⟩
      cases dangling with
      | true =>
        show (⟨.block, escape target.toList⟩ : Landmark) ∉ r.landmarks
        rw [hblock]
        exact hchoice.mp rfl
      | false =>
        show (⟨.block, escape target.toList⟩ : Landmark) ∈ r.landmarks
        rw [hblock]
        by_contra hlost
        cases hchoice.mpr hlost

end Report.Coherent

/-- The landmarks that are read off the text of a story's page. -/
def Story.landmarks (s : Story) (title : Option String) (now : Timestamp) : List Landmark :=
  Html.landmarks (s.page title now).toList

/-- The page of a script that parses has a block for each scene line, in order, with its label for
an anchor. The link to the start, the links to previous scenes and those of the choices that are not
called dangling lead to a block of the page, and so does the link to the next scene in the block of
a scene whose line does not name one. A choice that is called dangling leads to none. There are no
other links to scenes. -/
theorem links_of_page {script : String} {story : Story} (h : parse script = .ok story)
    (title : Option String) (now : Timestamp) :
    (sections Landmark.isBlock (story.landmarks title now)).map Prod.fst =
        (declarations .scene script).map (fun line => landmarkOf .block (declaredLabel line)) ∧
      (∀ m ∈ story.landmarks title now,
        m.kind = .start ∨ m.kind = .previous ∨ m.kind = .choice →
          ⟨.block, m.anchor⟩ ∈ story.landmarks title now) ∧
      (∀ m ∈ story.landmarks title now,
        m.kind = .danglingChoice → ⟨.block, m.anchor⟩ ∉ story.landmarks title now) ∧
      (∀ (i : Nat) (line : String) (part : Landmark × List Landmark),
        (declarations .scene script)[i]? = some line → NamesNoNext line →
        (sections Landmark.isBlock (story.landmarks title now))[i]? = some part →
          ∀ m ∈ part.2, m.kind = .next → ⟨.block, m.anchor⟩ ∈ story.landmarks title now) ∧
      ∀ m ∈ story.landmarks title now, m.kind ≠ .stray := by
  rw [Story.landmarks, landmarks_page]
  have hcoherent := coherent_ofStory h title now
  refine ⟨?_, ?_, ?_, ?_, ?_⟩
  · have hlabels := congrArg (List.map (landmarkOf .block)) (labels_of_parse h).1
    rw [← map_label_ofStory story title now, List.map_map, List.map_map] at hlabels
    rw [sections_landmarks, List.map_map]
    exact hlabels
  · intro m hm hkind
    have hlink := hcoherent.link hm
    rcases hkind with hkind | hkind | hkind <;> rw [hkind] at hlink <;> exact hlink
  · intro m hm hkind
    have hlink := hcoherent.link hm
    rw [hkind] at hlink
    exact hlink
  · intro i line part hline hnone hpart m hm hkind
    -- the part is the block of the scene that the line declares
    rw [sections_landmarks, List.getElem?_map] at hpart
    obtain ⟨row, hrow, rfl⟩ := Option.map_eq_some_iff.mp hpart
    rw [Report.ofStory, List.getElem?_map] at hrow
    obtain ⟨s, hs, rfl⟩ := Option.map_eq_some_iff.mp hrow
    obtain ⟨label, hlabel, rfl⟩ := SceneRow.label_of_next hm hkind
    have hbelow : (story.scenes.map Scene.label)[i + 1]? = some label :=
      (next_of_namesNoNext h hline hs hnone).symm.trans hlabel
    refine (block_mem_landmarks_iff _ label).mpr ?_
    rw [map_label_ofStory]
    exact List.mem_of_getElem? hbelow
  · intro m hm hkind
    have hlink := hcoherent.link hm
    rw [hkind] at hlink
    exact hlink

/-- A script with a choice that leads nowhere, a scene that goes on to the one below and one that
goes on to a scene nobody declares. -/
def forkScript : String :=
  "scene <a:\n    choice<b>: On\n    choice<c>: Off\nscene b -> d:"

/-- The story of `forkScript`. -/
def forkStory : Story :=
  { scenes :=
      [{ label := "<a", next := some "b", choices := some [⟨"On", "b"⟩, ⟨"Off", "c"⟩] },
        { label := "b", next := some "d", previous := some "<a" }] }

theorem landmarks_forkStory :
    forkStory.landmarks none default =
      [⟨.start, "&lt;a".toList⟩, ⟨.block, "&lt;a".toList⟩, ⟨.next, "b".toList⟩,
        ⟨.choice, "b".toList⟩, ⟨.danglingChoice, "c".toList⟩, ⟨.block, "b".toList⟩,
        ⟨.previous, "&lt;a".toList⟩, ⟨.next, "d".toList⟩] := by
  rw [Story.landmarks, landmarks_page]
  decide +kernel

/-- The next scene of the first one is on the page, while that of the second one, which its line
names, is not. -/
theorem links_of_forkScript :
    parse forkScript = .ok forkStory ∧
      (⟨.block, "&lt;a".toList⟩ : Landmark) ∈ forkStory.landmarks none default ∧
      (⟨.block, "b".toList⟩ : Landmark) ∈ forkStory.landmarks none default ∧
      (⟨.block, "c".toList⟩ : Landmark) ∉ forkStory.landmarks none default ∧
      (⟨.block, "d".toList⟩ : Landmark) ∉ forkStory.landmarks none default := by
  have h : parse forkScript = .ok forkStory := by decide +kernel
  obtain ⟨-, hlinks, hdangling, hnext, -⟩ := links_of_page h none default
  rw [landmarks_forkStory] at hlinks hdangling hnext ⊢
  have hlines : declarations .scene forkScript = ["scene <a:", "scene b -> d:"] := by
    decide +kernel
  rw [hlines] at hnext
  refine ⟨h, ?_, ?_, ?_, by decide⟩
  · exact hlinks ⟨.start, "&lt;a".toList⟩ (by decide) (.inl rfl)
  · exact hnext 0 _ _ rfl (by decide) rfl ⟨.next, "b".toList⟩ (by decide) rfl
  · exact hdangling ⟨.danglingChoice, "c".toList⟩ (by decide) rfl

end SceneScript
