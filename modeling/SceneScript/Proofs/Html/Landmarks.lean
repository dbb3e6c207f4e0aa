import SceneScript.Proofs.Html.Marks
import SceneScript.Proofs.Text.Cutting

set_option autoImplicit false
set_option relaxedAutoImplicit false

/-!
# Landmarks of a page

How a page is read back: it is cut at its tags, and the tags that open the block of a scene or a
link to one are its landmarks. A link is told by what stands before it since the tag above. Reading
goes on through any part of a page that ends outside a tag (`Reads`), so the landmarks of a page are
those of its parts. Values add none, and their anchors are told apart (`escape_injective`).
-/

namespace SceneScript.Html

/-- What a landmark is: the block of a scene, or a link by the place where it stands. A link in any
other place is a stray one. -/
inductive LandmarkKind
  | block
  | start
  | previous
  | next
  | choice
  | danglingChoice
  | stray
  deriving DecidableEq, Repr

/-- A place of a page with the anchor that it has or leads to. -/
structure Landmark where
  kind : LandmarkKind
  anchor : List Char
  deriving DecidableEq, Repr

def Landmark.isBlock (m : Landmark) : Bool :=
  m.kind == .block

/-- The start of the tag of a scene, up to its anchor. -/
def blockOpening : List Char :=
  "div class=\"scene\" id=\"scene-".toList

/-- The start of the tag of a link to a scene, up to its anchor. -/
def linkOpening : List Char :=
  "a href=\"#scene-".toList

/-- What follows the opening of a tag up to the next quotation mark. -/
def anchor? (opening tag : List Char) : Option (List Char) :=
  if opening.isPrefixOf tag then some (Text.before '"' (tag.drop opening.length)) else none

/-- The kind of a link, by what stands between it and the tag above, that tag included. -/
def linkKind (lead : List Char) : LandmarkKind :=
  if "li class=\"dangling\">".toList.isPrefixOf lead then .danglingChoice
  else if "li>".toList.isPrefixOf lead then .choice
  else if "Start scene: ".toList.isSuffixOf lead then .start
  else if "Previous: ".toList.isSuffixOf lead then .previous
  else if "Next: ".toList.isSuffixOf lead then .next
  else .stray

/-- The landmark that a tag is, if it is one. -/
def landmark? (lead tag : List Char) : Option Landmark :=
  match anchor? blockOpening tag with
  | some anchor => some ⟨.block, anchor⟩
  | none => (anchor? linkOpening tag).map (fun anchor => ⟨linkKind lead, anchor⟩)

/-- The landmarks of a page in order. Each piece but the first starts with a tag, and the piece
before it is its lead. -/
def landmarks (page : List Char) : List Landmark :=
  let pieces := Text.splitWhere (fun c => c == '<') page
  (pieces.zip pieces.tail).filterMap
    (fun neighbours => landmark? neighbours.1 (Text.before '>' neighbours.2))

/-! Pieces -/

/-- Text without a mark is part of the first piece. -/
theorem splitWhere_append_of_not_mem {mark : Char} {cs rest piece : List Char}
    {pieces : List (List Char)} (h : mark ∉ cs)
    (hrest : Text.splitWhere (fun c => c == mark) rest = piece :: pieces) :
    Text.splitWhere (fun c => c == mark) (cs ++ rest) = (cs ++ piece) :: pieces := by
  induction cs with
  | nil => exact hrest
  | cons c cs ih =>
    rw [List.mem_cons, not_or] at h
    rw [List.cons_append, Text.splitWhere, ih h.2]
    simp [Ne.symm h.1]

/-- A text is its first piece and the other ones, each after a mark. -/
theorem exists_pieces (mark : Char) (cs : List Char) :
    ∃ piece pieces, Text.splitWhere (fun c => c == mark) cs = piece :: pieces ∧
      cs = piece ++ pieces.flatMap (fun p => mark :: p) ∧ mark ∉ piece ∧
      ∀ p ∈ pieces, mark ∉ p := by
  induction cs with
  | nil => exact ⟨[], [], rfl, rfl, List.not_mem_nil, by simp⟩
  | cons c cs ih =>
    obtain ⟨piece, pieces, hsplit, hcs, hpiece, hpieces⟩ := ih
    rw [Text.splitWhere, hsplit]
    by_cases hc : c = mark
    · subst hc
      refine ⟨[], piece :: pieces, by simp, by simp [hcs], List.not_mem_nil, ?_⟩
      exact List.forall_mem_cons.mpr ⟨hpiece, hpieces⟩
    · refine ⟨c :: piece, pieces, by simp [hc], by simp [hcs], ?_, hpieces⟩
      rw [List.mem_cons, not_or]
      exact ⟨Ne.symm hc, hpiece⟩

/-! Tags -/

theorem landmarks_of_not_mem {cs : List Char} (h : '<' ∉ cs) : landmarks cs = [] := by
  have hnone : Text.splitWhere (fun c => c == '<') [] = [[]] := rfl
  have hpieces := splitWhere_append_of_not_mem h hnone
  rw [List.append_nil] at hpieces
  rw [landmarks, hpieces]
  rfl

/-- A tag is told apart from the text after it by its end, so nothing behind that matters to it. -/
theorem landmarks_tag {lead tag : List Char} (hlead : '<' ∉ lead) (htag : '<' ∉ tag)
    (hclosed : '>' ∉ tag) (rest : List Char) :
    landmarks (lead ++ '<' :: (tag ++ '>' :: rest)) =
      (landmark? lead tag).toList ++ landmarks (tag ++ '>' :: rest) := by
  obtain ⟨piece, pieces, hrest, -⟩ := exists_pieces '<' rest
  have hopen : '<' ∉ tag ++ ['>'] := by simpa using htag
  have hpieces : Text.splitWhere (fun c => c == '<') (tag ++ '>' :: rest) =
      (tag ++ '>' :: piece) :: pieces := by
    simpa using splitWhere_append_of_not_mem hopen hrest
  have hpage : Text.splitWhere (fun c => c == '<') (lead ++ '<' :: (tag ++ '>' :: rest)) =
      lead :: (tag ++ '>' :: piece) :: pieces := by
    have hmark : Text.splitWhere (fun c => c == '<') ('<' :: (tag ++ '>' :: rest)) =
        [] :: (tag ++ '>' :: piece) :: pieces := by
      rw [Text.splitWhere, hpieces]
      rfl
    simpa using splitWhere_append_of_not_mem hlead hmark
  rw [landmarks, landmarks, hpage, hpieces]
  simp only [List.tail_cons, List.zip_cons_cons, List.filterMap_cons, Text.before_append hclosed]
  cases landmark? lead tag <;> rfl

/-! Parts of a page -/

/-- After `lead`, a part of a page has the landmarks `ms`, and reading goes on after `last`. -/
structure Reads (lead part : List Char) (ms : List Landmark) (last : List Char) : Prop where
  outside : '<' ∉ last
  reads : ∀ rest, landmarks (lead ++ (part ++ rest)) = ms ++ landmarks (last ++ rest)

namespace Reads

variable {lead middle last part more opened : List Char} {ms ns : List Landmark}

theorem append (h : Reads lead part ms middle) (hmore : Reads middle more ns last) :
    Reads lead (part ++ more) (ms ++ ns) last where
  outside := hmore.outside
  reads rest := by
    rw [List.append_assoc, h.reads, hmore.reads, List.append_assoc]

theorem text (hlead : '<' ∉ lead) (hpart : '<' ∉ part) : Reads lead part [] (lead ++ part) where
  outside := by
    rw [List.mem_append, not_or]
    exact ⟨hlead, hpart⟩
  reads rest := by
    rw [List.append_assoc]
    rfl

theorem tag (hlead : '<' ∉ lead) (hopened : '<' ∉ opened) (hclosed : '>' ∉ opened) :
    Reads lead ('<' :: (opened ++ ['>'])) (landmark? lead opened).toList (opened ++ ['>']) where
  outside := by simpa using hopened
  reads rest := by
    simpa using landmarks_tag hlead hopened hclosed rest

end Reads

/-- Whether each tag of a text is complete and no landmark. -/
def isQuiet (cs : List Char) : Bool :=
  (Text.splitWhere (fun c => c == '<') cs).tail.all (fun piece =>
    piece.contains '>' && (landmark? [] (Text.before '>' piece)).isNone)

/-- A literal is checked by its characters. -/
theorem isQuiet_ofList {cs : List Char} (h : isQuiet cs = true) :
    isQuiet (String.ofList cs).toList = true := by
  rwa [String.toList_ofList]

/-- What is the lead after a text, if what stood before it was `lead`. -/
def leadAfter (lead cs : List Char) : List Char :=
  match Text.splitWhere (fun c => c == '<') cs with
  | [] => lead
  | piece :: pieces => pieces.getLastD (lead ++ piece)

/-- Whether a tag is a landmark does not depend on what stands before it. -/
theorem landmark?_eq_none_iff (lead tag : List Char) :
    landmark? lead tag = none ↔ landmark? [] tag = none := by
  rw [landmark?, landmark?]
  cases anchor? blockOpening tag with
  | some anchor => simp
  | none => simp

theorem Reads.quiet {lead : List Char} (hlead : '<' ∉ lead) (cs : List Char)
    (h : isQuiet cs = true) : Reads lead cs [] (leadAfter lead cs) := by
  obtain ⟨piece, pieces, hsplit, hcs, hpiece, hpieces⟩ := exists_pieces '<' cs
  rw [isQuiet, hsplit, List.tail_cons, List.all_eq_true] at h
  rw [leadAfter, hsplit, hcs]
  clear hsplit hcs
  dsimp only
  induction pieces generalizing lead piece with
  | nil =>
    simpa using Reads.text hlead hpiece
  | cons next pieces ih =>
    obtain ⟨hnext, hrest⟩ := List.forall_mem_cons.mp hpieces
    obtain ⟨hquiet, hothers⟩ := List.forall_mem_cons.mp h
    rw [Bool.and_eq_true, List.contains_iff_mem, Option.isNone_iff_eq_none] at hquiet
    obtain ⟨opened, text, rfl, hclosed⟩ := List.eq_append_cons_of_mem hquiet.1
    rw [Text.before_append hclosed, ← landmark?_eq_none_iff (lead ++ piece)] at hquiet
    rw [List.mem_append, List.mem_cons, not_or, not_or] at hnext
    have hpart := Reads.text hlead hpiece
    have htag := Reads.tag hpart.outside hnext.1 hclosed
    rw [hquiet.2] at htag
    -- the text after the tag is the first piece of what is left
    have hleft := ih htag.outside text hothers hnext.2.2 hrest
    have hall := hpart.append (htag.append hleft)
    rw [List.getLastD_cons]
    simpa using hall

/-! Values -/

theorem not_mem_escape {mark : Char} (h : isMark mark = true) (value : List Char) :
    mark ∉ escape value := by
  intro hmem
  have hmarks : mark ∈ marks (escape value) := List.mem_filter.mpr ⟨hmem, h⟩
  rw [marks_escape] at hmarks
  cases hmarks

/-- The special characters with what follows the ampersand of their references. -/
def specials : List (Char × List Char) :=
  [('&', "amp;".toList), ('<', "lt;".toList), ('>', "gt;".toList), ('"', "#34;".toList),
    ('\'', "#39;".toList)]

theorem escapeChar_cases (c : Char) :
    (escapeChar c = [c] ∧ c ≠ '&') ∨ ∃ r, (c, r) ∈ specials ∧ escapeChar c = '&' :: r := by
  unfold escapeChar
  split
  · exact .inr ⟨_, by decide, rfl⟩
  · exact .inr ⟨_, by decide, rfl⟩
  · exact .inr ⟨_, by decide, rfl⟩
  · exact .inr ⟨_, by decide, rfl⟩
  · exact .inr ⟨_, by decide, rfl⟩
  · rename_i hamp _ _ _ _
    exact .inl ⟨rfl, hamp⟩

/-- No reference is the start of another one. -/
theorem eq_of_prefix_of_mem_specials :
    ∀ p ∈ specials, ∀ q ∈ specials, p.2 <+: q.2 → p = q := by
  decide

theorem escapeChar_append_inj {c d : Char} {cs ds : List Char}
    (h : escapeChar c ++ cs = escapeChar d ++ ds) : c = d ∧ cs = ds := by
  rcases escapeChar_cases c with ⟨hc, hcamp⟩ | ⟨r, hr, hc⟩ <;>
    rcases escapeChar_cases d with ⟨hd, hdamp⟩ | ⟨q, hq, hd⟩ <;>
    rw [hc, hd, List.cons_append, List.cons_append] at h <;>
    obtain ⟨hhead, htail⟩ := List.cons.inj h
  · exact ⟨hhead, htail⟩
  · exact absurd hhead hcamp
  · exact absurd hhead.symm hdamp
  · -- one of the two references is a prefix of the other one
    have hsame : (c, r) = (d, q) := by
      rcases List.prefix_or_prefix_of_prefix (List.prefix_append r cs)
        (htail ▸ List.prefix_append q ds) with hprefix | hprefix
      · exact eq_of_prefix_of_mem_specials _ hr _ hq hprefix
      · exact (eq_of_prefix_of_mem_specials _ hq _ hr hprefix).symm
    cases hsame
    exact ⟨rfl, List.append_cancel_left htail⟩

theorem escape_cons_ne_nil (c : Char) (cs : List Char) : escape (c :: cs) ≠ [] := by
  rw [escape, List.flatMap_cons]
  rcases escapeChar_cases c with ⟨hc, -⟩ | ⟨r, -, hc⟩
  · simp [hc]
  · simp [hc]

/-- Texts that are written alike are the same. -/
theorem escape_injective : Function.Injective escape := by
  intro cs ds h
  induction cs generalizing ds with
  | nil =>
    cases ds with
    | nil => rfl
    | cons d ds => exact absurd h.symm (escape_cons_ne_nil d ds)
  | cons c cs ih =>
    cases ds with
    | nil => exact absurd h (escape_cons_ne_nil c cs)
    | cons d ds =>
      obtain ⟨rfl, hrest⟩ := escapeChar_append_inj h
      rw [ih hrest]

/-! Anchors -/

theorem anchor?_append (opening value rest : List Char) :
    anchor? opening (opening ++ (escape value ++ '"' :: rest)) = some (escape value) := by
  have hprefix : opening.isPrefixOf (opening ++ (escape value ++ '"' :: rest)) = true :=
    List.isPrefixOf_iff_prefix.mpr (List.prefix_append _ _)
  rw [anchor?, if_pos hprefix, List.drop_left,
    Text.before_append (not_mem_escape (by decide) value)]

/-- A tag with a value in its last attribute. -/
theorem Reads.anchored {lead opening : List Char} (hlead : '<' ∉ lead)
    (hopening : '<' ∉ opening ∧ '>' ∉ opening) (value : List Char) :
    Reads lead ('<' :: (opening ++ (escape value ++ ['"', '>'])))
      (landmark? lead (opening ++ (escape value ++ ['"']))).toList
      (opening ++ (escape value ++ ['"', '>'])) := by
  have hno : ∀ mark, isMark mark = true → mark ∉ opening → mark ≠ '"' →
      mark ∉ opening ++ (escape value ++ ['"']) := by
    intro mark hmark hmem hquote
    simp [hmem, hquote, not_mem_escape hmark]
  have htag := Reads.tag hlead (hno '<' (by decide) hopening.1 (by decide))
    (hno '>' (by decide) hopening.2 (by decide))
  simpa using htag

theorem landmark?_block (lead value rest : List Char) :
    landmark? lead (blockOpening ++ (escape value ++ '"' :: rest)) =
      some ⟨.block, escape value⟩ := by
  rw [landmark?, anchor?_append]

theorem landmark?_link (lead value rest : List Char) :
    landmark? lead (linkOpening ++ (escape value ++ '"' :: rest)) =
      some ⟨linkKind lead, escape value⟩ := by
  have hblock : anchor? blockOpening (linkOpening ++ (escape value ++ '"' :: rest)) = none := rfl
  rw [landmark?, hblock, anchor?_append]
  rfl

/-! Fragments -/

/-- Reading goes on through some fragments, wherever they stand outside a tag, and they have the
landmarks `ms`. -/
def Shows (page : List Fragment) (ms : List Landmark) : Prop :=
  ∀ lead, '<' ∉ lead → ∃ last, Reads lead (page.flatMap Fragment.write) ms last

/-- What is found for a text, if there is one and it is not empty. -/
def ifText (t : Option String) (found : String -> List Landmark) : List Landmark :=
  match t with
  | none => []
  | some s => if s.isEmpty then [] else found s

theorem ifText_nil (t : Option String) : ifText t (fun _ => []) = [] := by
  cases t with
  | none => rfl
  | some s => exact ite_self _

theorem Reads.markup {lead : List Char} (hlead : '<' ∉ lead) (cs : List Char)
    (h : isQuiet cs = true) :
    Reads lead ([Fragment.markup (String.ofList cs)].flatMap Fragment.write) []
      (leadAfter lead cs) := by
  rw [List.flatMap_singleton, Fragment.write, String.toList_ofList]
  exact Reads.quiet hlead cs h

theorem Reads.value {lead : List Char} (hlead : '<' ∉ lead) (text : String) :
    Reads lead ([Fragment.value text].flatMap Fragment.write) [] (lead ++ escape text.toList) := by
  rw [List.flatMap_singleton]
  exact Reads.text hlead (not_mem_escape (by decide) text.toList)

/-- A tag in whose last attribute a value stands. -/
theorem Reads.anchored_page {lead : List Char} (hlead : '<' ∉ lead) (before : List Char)
    (hbefore : '<' ∉ before) {opening : List Char} (hopening : '<' ∉ opening ∧ '>' ∉ opening)
    (after : List Char) (hafter : isQuiet after = true) (text : String) :
    Reads lead
      ([Fragment.markup (String.ofList (before ++ '<' :: opening)), .value text,
        .markup (String.ofList ('"' :: '>' :: after))].flatMap Fragment.write)
      (landmark? (lead ++ before) (opening ++ (escape text.toList ++ ['"']))).toList
      (leadAfter (opening ++ (escape text.toList ++ ['"', '>'])) after) := by
  have hstart := Reads.text hlead hbefore
  have htag := Reads.anchored hstart.outside hopening text.toList
  have hend := Reads.quiet htag.outside after hafter
  have hall := hstart.append (htag.append hend)
  simpa [Fragment.write] using hall

theorem Reads.append_page {page more : List Fragment} {lead middle last : List Char}
    {ms ns : List Landmark} (hpage : Reads lead (page.flatMap Fragment.write) ms middle)
    (h : Reads middle (more.flatMap Fragment.write) ns last) :
    Reads lead ((page ++ more).flatMap Fragment.write) (ms ++ ns) last := by
  rw [List.flatMap_append]
  exact hpage.append h

namespace Shows

variable {page : List Fragment} {more : List (List Fragment)} {ms ns : List Landmark}
  {text : String}

theorem of_eq (h : Shows page ms) (hms : ms = ns) : Shows page ns :=
  hms ▸ h

theorem nil : Shows [] [] := by
  intro lead hlead
  have hnone : '<' ∉ ([] : List Char) := List.not_mem_nil
  exact ⟨_, Reads.text hlead hnone⟩

theorem value (h : Shows page ms) : Shows (.value text :: page) ms := by
  intro lead hlead
  have hvalue := Reads.value hlead text
  obtain ⟨last, hlast⟩ := h _ hvalue.outside
  exact ⟨last, hvalue.append_page hlast⟩

theorem markup {cs : List Char} (hcs : isQuiet cs = true) (h : Shows page ms) :
    Shows (.markup (String.ofList cs) :: page) ms := by
  intro lead hlead
  have hmarkup := Reads.markup hlead _ hcs
  obtain ⟨last, hlast⟩ := h _ hmarkup.outside
  exact ⟨last, hmarkup.append_page hlast⟩

theorem append {others : List Fragment} (hpage : Shows page ms) (h : Shows others ns) :
    Shows (page ++ others) (ms ++ ns) := by
  intro lead hlead
  obtain ⟨middle, hmiddle⟩ := hpage lead hlead
  obtain ⟨last, hlast⟩ := h middle hmiddle.outside
  exact ⟨last, hmiddle.append_page hlast⟩

theorem flatten_cons (hpage : Shows page ms) (h : Shows more.flatten ns) :
    Shows (page :: more).flatten (ms ++ ns) :=
  hpage.append h

theorem flatMap {α : Type} {item : α -> List Fragment} {shown : α -> List Landmark}
    (h : ∀ a, Shows (item a) (shown a)) (xs : List α) :
    Shows (xs.flatMap item) (xs.flatMap shown) := by
  induction xs with
  | nil => exact nil
  | cons x xs ih => exact (h x).append ih

theorem showIf {condition : Bool} (h : Shows page ms) :
    Shows (showIf condition page) (if condition then ms else []) := by
  cases condition
  · exact nil
  · exact h

theorem showText {shown : String -> List Fragment} {found : String -> List Landmark}
    (hshown : ∀ s, Shows (shown s) (found s)) (h : Shows page []) (t : Option String) :
    Shows (showText t shown page) (ifText t found) := by
  cases t with
  | none => exact h
  | some s =>
    rw [Html.showText, ifText]
    split
    · exact h
    · exact hshown s

end Shows

end SceneScript.Html
