import SceneScript.CommandLine.Run
import SceneScript.Proofs.Text.Raw

set_option autoImplicit false
set_option relaxedAutoImplicit false

/-!
# What a run writes

A run writes its story as a value or as a page. The title of the page comes from the command line and
need not be text, and then there is nothing to write. Main statements: `product_eq_ok_iff` and
`exists_product_eq_error_iff`.
-/

namespace SceneScript

/-! Pages under raw titles -/

namespace Page

theorem map_headAround {α β : Type} (f : α -> β) (markup : String -> α) (title : α) :
    (headAround markup title).map f = headAround (fun text => f (markup text)) (f title) :=
  rfl

theorem write_head (r : Report) :
    (head r).flatMap Html.Fragment.write =
      (headAround String.toList (Html.escape (titleText r).toList)).flatten := by
  rw [List.flatMap_def, head, map_headAround]
  rfl

/-- The title stands in the head of a page only. -/
theorem body_ofStory (s : Story) (title other : Option String) (now : Timestamp) :
    body (Report.ofStory s title now) = body (Report.ofStory s other now) :=
  rfl

end Page

theorem Story.rawPage_ofString (s : Story) (title : String) (now : Timestamp) :
    s.rawPage (.ofString title) now = .ofString (s.page (some title) now) := by
  have hhead : (Page.headAround RawText.ofString ((RawText.ofString title).rewrite
      Html.escapeChar)).flatten =
        (Page.headAround String.toList (Html.escape title.toList)).flatten.map .char := by
    rw [List.map_flatten, Page.map_headAround, RawText.rewrite_ofString]
    rfl
  rw [rawPage, hhead, page, Html.render, Html.render, RawText.ofString_ofList,
    RawText.ofString_ofList, Page.ofReport, List.flatten_cons, List.flatMap_append,
    Page.write_head, List.map_append, Page.body_ofStory s (some title) none]
  rfl

theorem Story.lone_mem_rawPage_iff {s : Story} {title : RawText} {now : Timestamp}
    {half : Fin 0x800} : .lone half ∈ s.rawPage title now ↔ .lone half ∈ title := by
  simp only [rawPage, Page.headAround, List.mem_append, List.mem_flatten, List.mem_cons,
    List.not_mem_nil, or_false, exists_eq_or_imp, exists_eq_left, RawText.lone_not_mem_ofString,
    RawText.lone_mem_rewrite_iff, false_or, or_self]

namespace CommandLine

variable {o : Options} {now : Timestamp} {story : Story} {text : String}

/-- A page is asked for under a title that holds half of a surrogate pair. -/
def Options.IsGarbled (o : Options) : Prop :=
  o.format = .html ∧ ∃ half, .lone half ∈ o.reportTitle

/-- What a story is written as: as a value, or as a page under a title that is text. -/
inductive Options.Writes (o : Options) (now : Timestamp) (story : Story) : String → Prop
  | json (hformat : o.format = .json) : Writes o now story story.toJson.print
  | html {title : String} (hformat : o.format = .html) (htitle : o.reportTitle = .ofString title) :
      Writes o now story (story.page (some title) now)

theorem Options.product_of_json (ho : o.format = .json) (now : Timestamp) (story : Story) :
    o.product now story = .ok story.toJson.print := by
  rw [product, ho]

theorem Options.product_of_html (ho : o.format = .html) (now : Timestamp) (story : Story) :
    o.product now story = (story.rawPage o.reportTitle now).toText := by
  rw [product, ho]

theorem exists_product_eq_error_iff :
    (∃ u, o.product now story = .error u) ↔ o.IsGarbled := by
  rw [Options.IsGarbled]
  cases ho : o.format with
  | json =>
    rw [Options.product_of_json ho]
    exact iff_of_false nofun nofun
  | html =>
    rw [Options.product_of_html ho, RawText.exists_toText_eq_error_iff]
    simp only [Story.lone_mem_rawPage_iff, true_and]

theorem product_eq_ok_iff : o.product now story = .ok text ↔ o.Writes now story text := by
  constructor
  · intro h
    cases ho : o.format with
    | json =>
      rw [Options.product_of_json ho] at h
      rw [← Except.ok.inj h]
      exact .json ho
    | html =>
      obtain ⟨title, htitle⟩ : ∃ title : String, o.reportTitle = .ofString title := by
        refine RawText.exists_eq_ofString (fun half hhalf => ?_)
        have hfailed : ∃ u, o.product now story = .error u :=
          exists_product_eq_error_iff.mpr ⟨ho, half, hhalf⟩
        obtain ⟨u, hu⟩ := hfailed
        rw [h] at hu
        cases hu
      rw [Options.product_of_html ho, htitle, Story.rawPage_ofString,
        RawText.toText_ofString] at h
      rw [← Except.ok.inj h]
      exact .html ho htitle
  · rintro (ho | ⟨ho, htitle⟩)
    · exact Options.product_of_json ho now story
    · rw [Options.product_of_html ho, htitle, Story.rawPage_ofString, RawText.toText_ofString]

theorem Options.Writes.unique {other : String} (h : o.Writes now story text)
    (hother : o.Writes now story other) : text = other :=
  Except.ok.inj ((product_eq_ok_iff.mpr h).symm.trans (product_eq_ok_iff.mpr hother))

end CommandLine

end SceneScript
