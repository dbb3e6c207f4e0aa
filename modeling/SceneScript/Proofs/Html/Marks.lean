import SceneScript.Html.Fragment

set_option autoImplicit false
set_option relaxedAutoImplicit false

/-!
# Marks and references of a page

The characters that markup is made of, and the ampersands that start character references. A value
is written without the former, and each ampersand in it starts a reference, so both are properties
of the markup alone; the lemmas here carry them through the ways in which a page is put together.
-/

namespace SceneScript

namespace Html

/-- A character that starts or ends a tag or an attribute. -/
def isMark (c : Char) : Bool :=
  c == '<' || c == '>' || c == '"' || c == '\''

def marks (cs : List Char) : List Char :=
  cs.filter isMark

/-- The marks of a page as it is written. -/
def pageMarks (page : List Fragment) : List Char :=
  marks (page.flatMap Fragment.write)

/-- The character references that stand on a page: those of the special characters, an arrow and a
dash. -/
def references : List String :=
  ["&amp;", "&lt;", "&gt;", "&#34;", "&#39;", "&rarr;", "&mdash;"]

/-- Whether each ampersand of a text starts a character reference. -/
def isReferenced : List Char -> Bool
  | [] => true
  | c :: cs =>
    (c != '&' || references.any (fun r => r.toList.isPrefixOf (c :: cs))) && isReferenced cs

/-- Whether each ampersand of a fragment starts a character reference as it stands. For a value this
is left to its escaping. -/
def Fragment.isReferenced : Fragment -> Bool
  | .markup text => Html.isReferenced text.toList
  | .value _ => true

/-! Marks -/

theorem marks_escapeChar (c : Char) : marks (escapeChar c) = [] := by
  unfold escapeChar
  split
  · decide
  · decide
  · decide
  · decide
  · decide
  · rename_i hopen hclose hdouble hsingle
    have hc : isMark c = false := by
      simp only [isMark, Bool.or_eq_false_iff, beq_eq_false_iff_ne]
      exact ⟨⟨⟨hopen, hclose⟩, hdouble⟩, hsingle⟩
    rw [marks, List.filter_cons_of_neg (by simp [hc]), List.filter_nil]

theorem marks_escape (cs : List Char) : marks (escape cs) = [] := by
  rw [escape, marks, List.filter_flatMap, List.flatMap_eq_nil_iff]
  intro c _
  exact marks_escapeChar c

theorem pageMarks_append (page more : List Fragment) :
    pageMarks (page ++ more) = pageMarks page ++ pageMarks more := by
  rw [pageMarks, List.flatMap_append, marks, List.filter_append]
  rfl

theorem pageMarks_markup (text : String) (page : List Fragment) :
    pageMarks (.markup text :: page) = marks text.toList ++ pageMarks page := by
  show marks (text.toList ++ page.flatMap Fragment.write) = _
  rw [marks, List.filter_append]
  rfl

theorem pageMarks_value (text : String) (page : List Fragment) :
    pageMarks (.value text :: page) = pageMarks page := by
  show marks (escape text.toList ++ page.flatMap Fragment.write) = pageMarks page
  rw [marks, List.filter_append, ← marks, marks_escape]
  rfl

theorem pageMarks_flatten_cons (page : List Fragment) (more : List (List Fragment)) :
    pageMarks (List.flatten (page :: more)) = pageMarks page ++ pageMarks (List.flatten more) := by
  rw [List.flatten_cons, pageMarks_append]

/-- Lists that agree in what decides the marks of an item have the same marks. -/
theorem pageMarks_flatMap {α β : Type} {key : α -> β} {item : α -> List Fragment}
    (hitem : ∀ a b, key a = key b → pageMarks (item a) = pageMarks (item b)) {xs ys : List α}
    (h : xs.map key = ys.map key) : pageMarks (xs.flatMap item) = pageMarks (ys.flatMap item) := by
  induction xs generalizing ys with
  | nil =>
    rw [List.map_nil] at h
    rw [List.map_eq_nil_iff.mp h.symm]
  | cons x xs ih =>
    obtain ⟨y, ys, rfl, hkey, hrest⟩ := List.map_eq_cons_iff.mp h.symm
    rw [List.flatMap_cons, List.flatMap_cons, pageMarks_append, pageMarks_append,
      hitem x y hkey.symm, ih hrest.symm]

theorem isEmpty_eq_of_map_eq {α β : Type} {key : α -> β} {xs ys : List α}
    (h : xs.map key = ys.map key) : xs.isEmpty = ys.isEmpty := by
  rw [← List.isEmpty_map (f := key), h, List.isEmpty_map]

/-- Whether there is a text and it is not empty. -/
def hasText : Option String -> Bool
  | none => false
  | some s => !s.isEmpty

theorem pageMarks_showText {shown : String -> List Fragment}
    (hshown : ∀ s t, pageMarks (shown s) = pageMarks (shown t)) {a b : Option String}
    (h : hasText a = hasText b) (otherwise : List Fragment) :
    pageMarks (showText a shown otherwise) = pageMarks (showText b shown otherwise) := by
  have hcases : ∀ o, pageMarks (showText o shown otherwise) =
      if hasText o then pageMarks (shown "") else pageMarks otherwise := by
    intro o
    cases o with
    | none => rfl
    | some s =>
      rw [showText, hasText]
      cases s.isEmpty
      · exact hshown s ""
      · rfl
  rw [hcases, hcases, h]

theorem pageMarks_showIf {condition : Bool} {shown other : List Fragment}
    (h : pageMarks shown = pageMarks other) :
    pageMarks (showIf condition shown) = pageMarks (showIf condition other) := by
  cases condition
  · rfl
  · exact h

/-! References -/

theorem isReferenced_append {cs ds : List Char} (hcs : isReferenced cs = true)
    (hds : isReferenced ds = true) : isReferenced (cs ++ ds) = true := by
  induction cs with
  | nil => exact hds
  | cons c cs ih =>
    rw [isReferenced, Bool.and_eq_true, Bool.or_eq_true, List.any_eq_true] at hcs
    obtain ⟨hc, hrest⟩ := hcs
    rw [List.cons_append, isReferenced, Bool.and_eq_true, Bool.or_eq_true, List.any_eq_true]
    refine ⟨hc.imp_right ?_, ih hrest⟩
    -- a reference that starts before the seam ends before it
    rintro ⟨r, hr, hprefix⟩
    rw [List.isPrefixOf_iff_prefix] at hprefix
    refine ⟨r, hr, ?_⟩
    rw [List.isPrefixOf_iff_prefix, ← List.cons_append]
    exact hprefix.trans (List.prefix_append _ _)

theorem isReferenced_flatMap {α : Type} {write : α -> List Char} {xs : List α}
    (h : ∀ x ∈ xs, isReferenced (write x) = true) : isReferenced (xs.flatMap write) = true := by
  induction xs with
  | nil => rfl
  | cons x xs ih =>
    rw [List.flatMap_cons]
    exact isReferenced_append (h x List.mem_cons_self)
      (ih (fun y hy => h y (List.mem_cons_of_mem x hy)))

theorem isReferenced_escapeChar (c : Char) : isReferenced (escapeChar c) = true := by
  unfold escapeChar
  split
  · decide
  · decide
  · decide
  · decide
  · decide
  · rename_i hamp _ _ _ _
    have hc : (c != '&') = true := by simpa using hamp
    rw [isReferenced, hc, isReferenced]
    rfl

theorem isReferenced_write {f : Fragment} (h : f.isReferenced = true) :
    isReferenced f.write = true := by
  cases f with
  | markup text => exact h
  | value text => exact isReferenced_flatMap (fun c _ => isReferenced_escapeChar c)

/-- A literal is checked by its characters. -/
theorem isReferenced_ofList {cs : List Char} (h : isReferenced cs = true) :
    isReferenced (String.ofList cs).toList = true := by
  rwa [String.toList_ofList]

theorem exists_reference {cs before after : List Char} (h : isReferenced cs = true)
    (hcs : cs = before ++ '&' :: after) : ∃ r ∈ references, r.toList <+: '&' :: after := by
  induction before generalizing cs with
  | nil =>
    rw [hcs, List.nil_append, isReferenced, Bool.and_eq_true, Bool.or_eq_true,
      List.any_eq_true] at h
    rcases h.1 with hne | ⟨r, hr, hprefix⟩
    · cases hne
    · exact ⟨r, hr, List.isPrefixOf_iff_prefix.mp hprefix⟩
  | cons c before ih =>
    rw [hcs, List.cons_append, isReferenced, Bool.and_eq_true] at h
    exact ih h.2 rfl

/-- Each ampersand in the markup of a page starts a character reference. -/
def WellReferenced (page : List Fragment) : Prop :=
  ∀ f ∈ page, f.isReferenced = true

namespace WellReferenced

variable {page : List Fragment} {more : List (List Fragment)} {text : String}

theorem nil : WellReferenced [] := by
  intro f hf
  cases hf

theorem value (h : WellReferenced page) : WellReferenced (.value text :: page) :=
  List.forall_mem_cons.mpr ⟨rfl, h⟩

theorem markup {cs : List Char} (hcs : Html.isReferenced cs = true) (h : WellReferenced page) :
    WellReferenced (.markup (String.ofList cs) :: page) :=
  List.forall_mem_cons.mpr ⟨isReferenced_ofList hcs, h⟩

theorem flatten_cons (hpage : WellReferenced page) (h : WellReferenced more.flatten) :
    WellReferenced (page :: more).flatten := by
  intro f hf
  rcases List.mem_append.mp hf with hf | hf
  · exact hpage f hf
  · exact h f hf

theorem flatMap {α : Type} {item : α -> List Fragment} (h : ∀ a, WellReferenced (item a))
    (xs : List α) : WellReferenced (xs.flatMap item) := by
  intro f hf
  obtain ⟨a, -, hfa⟩ := List.mem_flatMap.mp hf
  exact h a f hfa

theorem showIf {condition : Bool} (h : WellReferenced page) :
    WellReferenced (showIf condition page) := by
  cases condition
  · exact nil
  · exact h

theorem showText {t : Option String} {shown : String -> List Fragment}
    (hshown : ∀ s, WellReferenced (shown s)) (h : WellReferenced page) :
    WellReferenced (showText t shown page) := by
  cases t with
  | none => exact h
  | some s =>
    rw [Html.showText]
    split
    · exact h
    · exact hshown s

end WellReferenced

end Html

end SceneScript
